import Mathlib.Data.List.Basic
import Thicket.Proofs.Text.Bytes
import Thicket.Source.Lines

/-!
# Lines of written text

A reader that supplies bytes without failing or pausing (`ByteReader.Supplies`) reads them line by line,
wherever one arrival ends and the next begins. In the bytes of a text a line feed is always the character
(`lineFeed_mem_utf8EncodeChar_iff`), so the lines of the bytes are the bytes of the lines of the text
(`cutLine_encode`). A source over such a reader hands out the characters of the text and nothing else:
each pull gives the next ones, as many as it was asked for or as there are (`LineSource.Holds.pull`).
-/

namespace Thicket

/-! ## Lines of bytes -/

namespace ByteReader

theorem cutLine_append (p q : List UInt8) :
    cutLine (p ++ q) =
      match (cutLine p).2 with
      | some back => ((cutLine p).1, some (back ++ q))
      | none => ((cutLine p).1 ++ (cutLine q).1, (cutLine q).2) := by
  induction p with
  | nil => rfl
  | cons b p ih =>
    rw [List.cons_append, cutLine, cutLine]
    by_cases hb : b = lineFeed
    · rw [if_pos hb, if_pos hb]
    · rw [if_neg hb, if_neg hb, ih]
      cases (cutLine p).2 <;> rfl

/-- Bytes without a line feed are one line that is not over. -/
theorem cutLine_of_notMem {bytes : List UInt8} (h : lineFeed ∉ bytes) :
    cutLine bytes = (bytes, none) := by
  induction bytes with
  | nil => rfl
  | cons b bytes ih =>
    obtain ⟨hb, hbytes⟩ := not_or.1 (mt List.mem_cons.2 h)
    rw [cutLine, if_neg (Ne.symm hb), ih hbytes]

/-- The reader will hand out just these bytes, without failing and without a pause. -/
structure Supplies (r : ByteReader) (bytes : List UInt8) : Prop where
  rest_eq : r.rest = bytes
  steady : ∀ a ∈ r.arrivals, ∃ chunk, a = .bytes chunk ∧ chunk ≠ []

theorem supplies_chunks {chunks : List (List UInt8)} (hne : ∀ chunk ∈ chunks, chunk ≠ []) :
    Supplies ⟨[], chunks.map .bytes⟩ chunks.flatten where
  rest_eq := by
    rw [rest, List.nil_append, List.flatMap_map, List.flatten_eq_flatMap]
    rfl
  steady := by
    intro a ha
    obtain ⟨chunk, hchunk, rfl⟩ := List.mem_map.1 ha
    exact ⟨chunk, rfl, hne chunk hchunk⟩

/-- A line is read up to its line feed, whatever arrivals it is spread over. -/
theorem collect_of_supplies (got : List UInt8) {buffered : List UInt8} {arrivals : List Arrival}
    {bytes : List UInt8} (h : Supplies ⟨buffered, arrivals⟩ bytes) :
    (collect got buffered arrivals).bytes = got ++ (cutLine bytes).1 ∧
      (collect got buffered arrivals).failure = none ∧
      (collect got buffered arrivals).reader.Supplies ((cutLine bytes).2.getD []) := by
  obtain ⟨rfl, hsteady⟩ := h
  induction arrivals generalizing got buffered with
  | nil =>
    have hrest : rest ⟨buffered, []⟩ = buffered := List.append_nil buffered
    rw [hrest]
    exact ⟨rfl, rfl, List.append_nil _, hsteady⟩
  | cons a later ih =>
    obtain ⟨⟨chunk, rfl, hchunk⟩, hlater⟩ := List.forall_mem_cons.1 hsteady
    have hrest : rest ⟨buffered, .bytes chunk :: later⟩ = buffered ++ rest ⟨chunk, later⟩ := rfl
    rw [hrest, cutLine_append]
    rcases hcut : cutLine buffered with ⟨front, _ | back⟩
    · -- the line goes on in the next arrival
      have hcollect : collect got buffered (.bytes chunk :: later) =
          collect (got ++ front) chunk later := by
        cases chunk with
        | nil => exact absurd rfl hchunk
        | cons b chunk => simp only [collect, hcut]
      obtain ⟨hbytes, hfailure, hreader⟩ := ih (got ++ front) hlater
      rw [hcollect]
      exact ⟨by rw [hbytes, List.append_assoc], hfailure, hreader⟩
    · have hcollect : collect got buffered (.bytes chunk :: later) =
          ⟨got ++ front, none, ⟨back, .bytes chunk :: later⟩⟩ := by
        simp only [collect, hcut]
      rw [hcollect]
      exact ⟨rfl, rfl, rfl, hsteady⟩

theorem Supplies.readRawLine {r : ByteReader} {bytes : List UInt8} (h : r.Supplies bytes) :
    r.readRawLine.bytes = (cutLine bytes).1 ∧ r.readRawLine.failure = none ∧
      r.readRawLine.reader.Supplies ((cutLine bytes).2.getD []) :=
  collect_of_supplies [] h

end ByteReader

/-! ## Lines of text -/

namespace Text

/-- The characters up to and including the first line feed, and what follows it; all characters if there
is none. -/
def cutLine : Text → Text × Text
  | [] => ([], [])
  | c :: t => if c = '\n' then (['\n'], t) else (c :: (cutLine t).1, (cutLine t).2)

theorem cutLine_append (t : Text) : (cutLine t).1 ++ (cutLine t).2 = t := by
  induction t with
  | nil => rfl
  | cons c t ih =>
    rw [cutLine]
    split
    · next hc => rw [hc]; rfl
    · rw [List.cons_append, ih]

theorem fst_cutLine_eq_nil_iff {t : Text} : (cutLine t).1 = [] ↔ t = [] := by
  cases t with
  | nil => exact iff_of_true rfl rfl
  | cons c t =>
    rw [cutLine]
    split <;> exact iff_of_false (List.cons_ne_nil _ _) (List.cons_ne_nil _ _)

/-- Only the line feed is written with the byte of the line feed. -/
theorem lineFeed_mem_utf8EncodeChar_iff {c : Char} :
    ByteReader.lineFeed ∈ String.utf8EncodeChar c ↔ c = '\n' := by
  constructor
  · intro h
    -- the bytes of a longer sequence are 128 and above
    have hne : ∀ n : Nat, 128 ≤ n → n < 256 → ByteReader.lineFeed ≠ UInt8.ofNat n := by
      intro n hle hlt heq
      have hval : 10 = n := by
        have := congrArg UInt8.toNat heq
        rwa [UInt8.toNat_ofNat_of_lt' hlt] at this
      omega
    simp only [String.utf8EncodeChar] at h
    split at h
    · next hone =>
      have hval : 10 = c.val.toNat := by
        have := congrArg UInt8.toNat (List.mem_singleton.1 h)
        rwa [UInt8.toNat_ofNat_of_lt' (Nat.lt_of_le_of_lt hone (by decide))] at this
      exact Char.ext (UInt32.toNat_inj.1 hval.symm)
    · split at h <;> [skip; split at h] <;>
        simp only [List.mem_cons, List.not_mem_nil, or_false] at h
      · rcases h with h | h <;> exact absurd h (hne _ (by omega) (by omega))
      · rcases h with h | h | h <;> exact absurd h (hne _ (by omega) (by omega))
      · rcases h with h | h | h | h <;> exact absurd h (hne _ (by omega) (by omega))
  · rintro rfl
    decide

theorem cutLine_encode (t : Text) :
    (ByteReader.cutLine t.encode).1 = encode (cutLine t).1 ∧
      (ByteReader.cutLine t.encode).2.getD [] = encode (cutLine t).2 := by
  induction t with
  | nil => exact ⟨rfl, rfl⟩
  | cons c t ih =>
    rw [encode_cons, ByteReader.cutLine_append, cutLine]
    by_cases hc : c = '\n'
    · subst hc
      exact ⟨rfl, rfl⟩
    · rw [if_neg hc, ByteReader.cutLine_of_notMem (mt lineFeed_mem_utf8EncodeChar_iff.1 hc),
        encode_cons]
      exact ⟨congrArg (_ ++ ·) ih.1, ih.2⟩

end Text

/-- Over a reader of written text, a line of the bytes is a line of the text. -/
theorem ByteReader.Supplies.readLine {r : ByteReader} {t : Text} (h : r.Supplies t.encode) :
    r.readLine.text = t.cutLine.1 ∧ r.readLine.failure = none ∧
      r.readLine.reader.Supplies t.cutLine.2.encode := by
  obtain ⟨hbytes, hfailure, hreader⟩ := h.readRawLine
  obtain ⟨hfront, hback⟩ := t.cutLine_encode
  have hdecode : Text.decode? r.readRawLine.bytes = some t.cutLine.1 := by
    rw [hbytes, hfront, Text.decode?_encode]
  have hline : r.readLine = ⟨t.cutLine.1, none, r.readRawLine.reader⟩ := by
    simp only [ByteReader.readLine, hdecode, hfailure]
  rw [hback] at hreader
  rw [hline]
  exact ⟨rfl, rfl, hreader⟩

/-! ## The source over the reader -/

namespace LineSource

/-- The source has just the text to hand out: the characters of the current line, and what the reader
supplies. -/
def Holds (s : LineSource) (t : Text) : Prop :=
  ∃ rest : Text, t = s.unread ++ rest ∧ s.reader.Supplies rest.encode

theorem holds_ofReader {r : ByteReader} {t : Text} (h : r.Supplies t.encode) :
    (ofReader r).Holds t := ⟨t, rfl, h⟩

/-- Reading a line on does not fail, and moves characters from the reader to the line; there are none
left only at the end of the text. -/
theorem Holds.refill {s : LineSource} {t : Text} (h : s.Holds t) :
    s.refill.1 = none ∧ s.refill.2.Holds t ∧ (s.refill.2.unread = [] → t = []) := by
  obtain ⟨rest, rfl, hreader⟩ := h
  unfold LineSource.refill
  split
  · next hempty =>
    rw [List.isEmpty_iff] at hempty
    obtain ⟨htext, hfailure, hlater⟩ := hreader.readLine
    rw [hempty, List.nil_append]
    refine ⟨hfailure, ⟨rest.cutLine.2, ?_, hlater⟩, fun hnil => ?_⟩
    · show rest = s.reader.readLine.text ++ rest.cutLine.2
      rw [htext, Text.cutLine_append]
    · have hnil : s.reader.readLine.text = [] := hnil
      rw [htext] at hnil
      exact Text.fst_cutLine_eq_nil_iff.1 hnil
  · next hunread =>
    refine ⟨rfl, ⟨rest, rfl, hreader⟩, fun hnil => ?_⟩
    exact absurd (List.isEmpty_iff.2 hnil) hunread

/-- A pull hands out the next characters, as many as it is asked for or as there are. -/
theorem Holds.pull {s : LineSource} {t : Text} (h : s.Holds t) (most : Nat) :
    (s.pull most).text = t.take most ∧ (s.pull most).result = .ok (t.take most).length ∧
      (s.pull most).source.Holds (t.drop most) := by
  fun_induction LineSource.pull s most generalizing t with
  | case1 s => exact ⟨rfl, rfl, h⟩
  | case2 s most _ failure s' hrefill =>
    obtain ⟨hnone, -, -⟩ := h.refill
    rw [hrefill] at hnone
    cases hnone
  | case3 s most _ s' hrefill hunread =>
    obtain ⟨-, hholds, hend⟩ := h.refill
    rw [hrefill] at hholds hend
    cases hend hunread
    rw [List.take_nil, List.drop_nil]
    exact ⟨rfl, rfl, hholds⟩
  | case4 s most _ s' hrefill c line hunread part later =>
    rename_i ih
    obtain ⟨-, ⟨rest, rfl, hreader⟩, -⟩ := hrefill ▸ h.refill
    -- the part of the line comes first, and the text goes on with what the source then holds
    have hline : part ++ (c :: line).drop most = c :: line := List.take_append_drop most (c :: line)
    have hsplit : s'.unread ++ rest = part ++ ((c :: line).drop most ++ rest) := by
      rw [hunread, ← List.append_assoc, hline]
    have hpart : part.length ≤ most := List.length_take_le most (c :: line)
    have htake : (s'.unread ++ rest).take most =
        part ++ ((c :: line).drop most ++ rest).take (most - part.length) := by
      rw [hsplit, List.take_append, List.take_of_length_le hpart]
    have hdrop : (s'.unread ++ rest).drop most =
        ((c :: line).drop most ++ rest).drop (most - part.length) := by
      rw [hsplit, List.drop_append, List.drop_of_length_le hpart, List.nil_append]
    obtain ⟨htext, hresult, hsource⟩ := ih ⟨rest, rfl, hreader⟩
    rw [htake, hdrop]
    refine ⟨congrArg (part ++ ·) htext, ?_, hsource⟩
    rw [List.length_append]
    exact congrArg (Except.map (part.length + ·)) hresult

end LineSource

end Thicket
