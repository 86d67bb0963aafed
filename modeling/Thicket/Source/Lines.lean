import Thicket.Source.Basic
import Thicket.Source.ByteReader

/-!
# A source over a byte reader

The source reads a line whenever it has no character left to hand out, and hands the characters of
lines out until a pull has got as many as it asked for or the input ends. Characters that a failing
line left behind are handed out by the next pull.
-/

namespace Thicket

/-- The characters of the current line that have not been handed out, and the reader behind them. -/
structure LineSource where
  unread : Text
  reader : ByteReader

namespace LineSource

/-- A source over a reader of which nothing has been read. -/
def ofReader (reader : ByteReader) : LineSource := ⟨[], reader⟩

/-- Reads the next line if no character is left, and tells whether that failed. -/
def refill (s : LineSource) : Option InputFailure × LineSource :=
  if s.unread.isEmpty then
    let line := s.reader.readLine
    (line.failure, ⟨line.text, line.reader⟩)
  else (none, s)

/-- Characters and bytes that have not been handed out. -/
def supply (s : LineSource) : Nat := s.unread.length + s.reader.rest.length

theorem supply_refill_le (s : LineSource) : s.refill.2.supply ≤ s.supply := by
  unfold refill
  split
  · have := ByteReader.length_readLine s.reader
    simp only [supply]
    omega
  · simp

def pull (s : LineSource) (most : Nat) : Pulled LineSource :=
  if _start : most = 0 then ⟨[], .ok 0, s⟩
  else
    match s.refill with
    | (some failure, s) => ⟨[], .error (Cause.input failure), s⟩
    | (none, s) =>
      match s.unread with
      | [] => ⟨[], .ok 0, s⟩
      | c :: rest =>
        let part := (c :: rest).take most
        let later := pull { s with unread := (c :: rest).drop most } (most - part.length)
        ⟨part ++ later.text, later.result.map (part.length + ·), later.source⟩
termination_by most
decreasing_by
  simp only [List.length_take, List.length_cons]
  omega

theorem supply_pull_add_length (s : LineSource) (most : Nat) :
    (s.pull most).source.supply + (s.pull most).text.length ≤ s.supply := by
  fun_induction pull s most with
  | case1 => simp
  | case2 s most _ failure s' hrefill =>
    have := supply_refill_le s
    simpa [hrefill] using this
  | case3 s most _ s' hrefill hunread =>
    have := supply_refill_le s
    simpa [hrefill] using this
  | case4 s most _ s' hrefill c rest hunread part later ih =>
    have hle := supply_refill_le s
    rw [hrefill] at hle
    simp only [supply, hunread] at *
    simp only [later, part, List.length_append, List.length_take, List.length_drop] at *
    omega

theorem length_text_of_ok (s : LineSource) (most count : Nat)
    (h : (s.pull most).result = .ok count) : (s.pull most).text.length = count := by
  fun_induction pull s most generalizing count with
  | case1 => simpa using h
  | case2 => cases h
  | case3 => simpa using h
  | case4 s most _ s' hrefill c rest hunread part later ih =>
    cases hlater : later.result with
    | error e => rw [hlater] at h; cases h
    | ok n =>
      rw [hlater] at h
      cases h
      rw [List.length_append, ih n hlater]

instance : FiniteSource LineSource where
  pull := pull
  supply := supply
  supply_lt s most count h := by
    have hsupply := supply_pull_add_length s most
    have htext := length_text_of_ok s most _ h
    omega

end LineSource

end Thicket
