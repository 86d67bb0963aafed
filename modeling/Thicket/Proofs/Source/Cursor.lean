import Thicket.Proofs.Source.Agreement
import Thicket.Proofs.Source.Counting
import Thicket.Proofs.Text.Slices

/-!
# The cursor in the current line

A source over a reader keeps the whole current line and a byte offset in it, up to which its characters
have been handed out. `LineCursor.pull?` follows a pull with this cursor and takes down what it gets from
the reader; it comes to nothing if the offset ever cuts a character or the loop does not move on.

Neither happens, and the cursor does what the source does (`Stands.pull?`). Whatever fails in between, the
characters that have been handed out and those that have not been are what the reader has left in its
lines, in order and once each (`pulls?_accounted`).
-/

namespace Thicket

/-! ## Lines one after another -/

namespace ByteReader

/-- What a reader leaves in a number of lines that are read one after another. -/
def readLines (r : ByteReader) : Nat → List Line
  | 0 => []
  | n + 1 => r.readLine :: r.readLine.reader.readLines n

/-- The reader after a number of lines. -/
def afterLines (r : ByteReader) : Nat → ByteReader
  | 0 => r
  | n + 1 => r.readLine.reader.afterLines n

theorem readLines_add (r : ByteReader) (m n : Nat) :
    r.readLines (m + n) = r.readLines m ++ (r.afterLines m).readLines n := by
  induction m generalizing r with
  | zero => rw [Nat.zero_add]; rfl
  | succ m ih =>
    rw [Nat.succ_add, readLines, ih]
    rfl

theorem afterLines_add (r : ByteReader) (m n : Nat) :
    r.afterLines (m + n) = (r.afterLines m).afterLines n := by
  induction m generalizing r with
  | zero => rw [Nat.zero_add]; rfl
  | succ m ih =>
    rw [Nat.succ_add, afterLines, ih]
    rfl

/-- The lines are what the reader leaves when it is read line by line, and it is then the second one. -/
def Reads (r : ByteReader) (lines : List Line) (r' : ByteReader) : Prop :=
  lines = r.readLines lines.length ∧ r' = r.afterLines lines.length

theorem Reads.nil (r : ByteReader) : r.Reads [] r := ⟨rfl, rfl⟩

theorem Reads.one (r : ByteReader) : r.Reads [r.readLine] r.readLine.reader := ⟨rfl, rfl⟩

theorem Reads.append {r r' r'' : ByteReader} {lines lines' : List Line} (h : r.Reads lines r')
    (h' : r'.Reads lines' r'') : r.Reads (lines ++ lines') r'' := by
  obtain ⟨hlines, rfl⟩ := h
  obtain ⟨hlines', rfl⟩ := h'
  refine ⟨?_, ?_⟩
  · rw [List.length_append, readLines_add, ← hlines, ← hlines']
  · rw [List.length_append, afterLines_add]

end ByteReader

/-! ## The cursor -/

/-- The current line, the byte offset up to which it has been handed out, and the reader behind it. -/
structure LineCursor where
  line : Text
  offset : Nat
  reader : ByteReader

/-- What a pull hands out, the lines that it reads, its result and the cursor after it. -/
structure Draw where
  text : Text
  lines : List Line
  result : Except Fault Nat
  cursor : LineCursor

/-- The byte offset of the character that so many others stand before, or the end of the text. -/
def Text.offsetOf (t : Text) (n : Nat) : Nat := (t.places[n]?.map Place.offset).getD t.byteSize

namespace LineCursor

def ofReader (r : ByteReader) : LineCursor := ⟨[], 0, r⟩

/-- Reads the next line if the current one has been handed out. -/
def refill (c : LineCursor) : Option Line × LineCursor :=
  if c.offset = c.line.byteSize then
    let line := c.reader.readLine
    (some line, ⟨line.text, 0, line.reader⟩)
  else (none, c)

/-- Hands out at most so many characters; nothing if the offset cuts a character, or if a round would
hand out nothing. -/
def pull? (c : LineCursor) (most : Nat) : Option Draw :=
  if most = 0 then some ⟨[], [], .ok 0, c⟩
  else
    match c.refill with
    | (line?, c) =>
      match line?.bind Line.failure with
      | some failure => some ⟨[], line?.toList, .error (Cause.input failure), c⟩
      | none =>
        if line?.any (·.text.isEmpty) then some ⟨[], line?.toList, .ok 0, c⟩
        else do
          let rest ← c.line.slice? c.offset c.line.byteSize
          let taken := rest.offsetOf most
          let chunk ← rest.slice? 0 taken
          if _move : chunk = [] then none
          else
            let later ← pull? ⟨c.line, c.offset + taken, c.reader⟩ (most - chunk.length)
            some ⟨chunk ++ later.text, line?.toList ++ later.lines,
              later.result.map (chunk.length + ·), later.cursor⟩
termination_by most
decreasing_by
  have := List.length_pos_iff.2 _move
  omega

/-- Pulls one after another, each for at most so much, and the cursor after them. -/
def pulls? (c : LineCursor) : List Nat → Option (List Draw × LineCursor)
  | [] => some ([], c)
  | most :: mosts => do
    let d ← c.pull? most
    let (later, c) ← d.cursor.pulls? mosts
    some (d :: later, c)

/-! ## The cursor stands for the source -/

/-- The cursor stands in its line where the source has its unread characters, over the same reader. -/
structure Stands (c : LineCursor) (s : LineSource) : Prop where
  split : ∃ done, c.line = done ++ s.unread ∧ c.offset = done.byteSize
  reader : c.reader = s.reader

variable {c : LineCursor} {s : LineSource}

theorem stands_ofReader (r : ByteReader) : (ofReader r).Stands (.ofReader r) :=
  ⟨⟨[], rfl, rfl⟩, rfl⟩

/-- From the cursor to the end of the line stands what is unread. -/
theorem Stands.slice? (h : c.Stands s) : c.line.slice? c.offset c.line.byteSize = some s.unread := by
  obtain ⟨done, hline, hoffset⟩ := h.split
  refine Text.slice?_eq_some_iff.2 ⟨done, [], ?_, hoffset, ?_⟩
  · rw [hline, List.append_nil]
  · rw [hline, Text.byteSize_append]

theorem Stands.isBoundary (h : c.Stands s) : c.line.IsBoundary c.offset := by
  obtain ⟨done, hline, hoffset⟩ := h.split
  exact ⟨done, s.unread, hline, hoffset⟩

theorem Stands.offset_eq_iff (h : c.Stands s) : c.offset = c.line.byteSize ↔ s.unread = [] := by
  obtain ⟨done, hline, hoffset⟩ := h.split
  rw [hline, hoffset, Text.byteSize_append]
  constructor
  · intro hsize
    by_contra hne
    have := Text.byteSize_pos hne
    omega
  · rintro hnil
    rw [hnil]
    rfl

/-- Handing out a part of the unread characters moves the cursor behind it. -/
theorem Stands.move {part rest : Text} (h : c.Stands s) (hunread : s.unread = part ++ rest) :
    Stands ⟨c.line, c.offset + part.byteSize, c.reader⟩ { s with unread := rest } where
  split := by
    obtain ⟨done, hline, hoffset⟩ := h.split
    refine ⟨done ++ part, ?_, ?_⟩
    · rw [hline, hunread, List.append_assoc]
    · rw [hoffset, Text.byteSize_append]
  reader := h.reader

/-- What a refill of the cursor does beside one of the source. -/
structure Refilled (c : LineCursor) (s : LineSource) : Prop where
  failure : c.refill.1.bind Line.failure = s.refill.1
  stands : c.refill.2.Stands s.refill.2
  reads : c.reader.Reads c.refill.1.toList c.refill.2.reader
  unread : s.unread ++ c.refill.1.toList.flatMap Line.text = s.refill.2.unread
  ended : c.refill.1.any (·.text.isEmpty) = s.refill.2.unread.isEmpty

theorem Stands.refill (h : c.Stands s) : c.Refilled s := by
  by_cases hunread : s.unread = []
  · have hcursor : c.refill = (some c.reader.readLine,
        ⟨c.reader.readLine.text, 0, c.reader.readLine.reader⟩) := if_pos (h.offset_eq_iff.2 hunread)
    have hsource : s.refill =
        (c.reader.readLine.failure, ⟨c.reader.readLine.text, c.reader.readLine.reader⟩) := by
      rw [LineSource.refill, if_pos (by rw [hunread]; rfl), h.reader]
    constructor
    · rw [hcursor, hsource]
      rfl
    · rw [hcursor, hsource]
      exact ⟨⟨[], rfl, rfl⟩, rfl⟩
    · rw [hcursor]
      exact .one c.reader
    · rw [hcursor, hsource, hunread]
      exact List.append_nil _
    · rw [hcursor, hsource]
      rfl
  · have hcursor : c.refill = (none, c) := if_neg (mt h.offset_eq_iff.1 hunread)
    have hsource : s.refill = (none, s) := by
      rw [LineSource.refill, if_neg (by simpa using hunread)]
    constructor
    · rw [hcursor, hsource]
      rfl
    · rw [hcursor, hsource]
      exact h
    · rw [hcursor]
      exact .nil c.reader
    · rw [hcursor, hsource]
      exact List.append_nil _
    · rw [hcursor, hsource]
      simpa using hunread

/-! ## A pull -/

/-- What a pull with the cursor has to do with one of the source. -/
structure Follows (c : LineCursor) (s : LineSource) (most : Nat) (p : Pulled LineSource) (d : Draw) :
    Prop where
  text : d.text = p.text
  result : d.result = p.result
  stands : d.cursor.Stands p.source
  reads : c.reader.Reads d.lines d.cursor.reader
  /-- What was unread and what the lines add is handed out, but for what stays unread. -/
  account : d.text ++ p.source.unread = s.unread ++ d.lines.flatMap Line.text
  /-- A pull falls short only if a line comes to nothing without a failure: the input has ended. -/
  short : ∀ n, d.result = .ok n → n < most → ∃ l ∈ d.lines, l.text = [] ∧ l.failure = none

end LineCursor

theorem Text.getD_offset_placesFrom (offset : Nat) (before : Option Char) (t : Text) (n : Nat) :
    ((placesFrom offset before t)[n]?.map Place.offset).getD (offset + byteSize t) =
      offset + byteSize (t.take n) := by
  induction t generalizing offset before n with
  | nil => simp [placesFrom]
  | cons c t ih =>
    cases n with
    | zero => rfl
    | succ n =>
      rw [placesFrom, List.getElem?_cons_succ, List.take_succ_cons, byteSize, byteSize, ← Nat.add_assoc,
        ← Nat.add_assoc]
      exact ih (offset + c.utf8Size) (some c) n

theorem Text.offsetOf_eq (t : Text) (n : Nat) : t.offsetOf n = byteSize (t.take n) := by
  have h := getD_offset_placesFrom 0 none t n
  rwa [Nat.zero_add, Nat.zero_add] at h

/-- The first characters of a text are a slice of it. -/
theorem Text.slice?_take (t : Text) (n : Nat) :
    t.slice? 0 (byteSize (t.take n)) = some (t.take n) := by
  refine slice?_eq_some_iff.2 ⟨[], t.drop n, ?_, rfl, ?_⟩
  · rw [List.nil_append, List.take_append_drop]
  · rw [byteSize, Nat.zero_add]

namespace LineCursor

variable {c : LineCursor} {s : LineSource}

/-- A pull with the cursor comes to what one of the source comes to. -/
theorem Stands.pull? (h : c.Stands s) (most : Nat) :
    ∃ d, c.pull? most = some d ∧ c.Follows s most (s.pull most) d := by
  fun_induction LineSource.pull s most generalizing c with
  | case1 s =>
    refine ⟨⟨[], [], .ok 0, c⟩, by rw [LineCursor.pull?, if_pos rfl], rfl, rfl, h, .nil c.reader, ?_, ?_⟩
    · exact (List.append_nil _).symm
    · exact fun n _ hlt => absurd hlt (Nat.not_lt_zero n)
  | case2 s most hmost failure s' hrefill =>
    obtain ⟨hfailure, hstands, hreads, hunread, -⟩ := h.refill
    rw [hrefill] at hfailure hstands hunread
    refine ⟨⟨[], c.refill.1.toList, .error (Cause.input failure), c.refill.2⟩, ?_, rfl, rfl, hstands,
      hreads, hunread.symm, ?_⟩
    · rw [LineCursor.pull?, if_neg hmost]
      simp only [hfailure]
    · intro n hok
      cases hok
  | case3 s most hmost s' hrefill hnil =>
    obtain ⟨hfailure, hstands, hreads, hunread, hended⟩ := h.refill
    rw [hrefill] at hfailure hstands hunread hended
    rw [hnil] at hended
    refine ⟨⟨[], c.refill.1.toList, .ok 0, c.refill.2⟩, ?_, rfl, rfl, hstands, hreads, hunread.symm, ?_⟩
    · rw [LineCursor.pull?, if_neg hmost]
      simp only [hfailure, hended, List.isEmpty_nil, ↓reduceIte]
    · intro n _ _
      obtain ⟨l, hl, hempty⟩ := (Option.any_eq_true _ _).1 hended
      rw [hl] at hfailure
      exact ⟨l, by rw [hl]; exact List.mem_singleton_self l, List.isEmpty_iff.1 hempty, hfailure⟩
  | case4 s most hmost s' hrefill ch rest hunread part later =>
    rename_i ih
    obtain ⟨hfailure, hstands, hreads, hbefore, hended⟩ := h.refill
    rw [hrefill] at hfailure hstands hbefore hended
    have hpart : part ++ (ch :: rest).drop most = ch :: rest := List.take_append_drop most (ch :: rest)
    have hmove : part ≠ [] := by
      intro hnil
      rcases List.take_eq_nil_iff.1 hnil with hzero | hline
      · exact hmost hzero
      · cases hline
    have hslice := hstands.slice?
    rw [hunread] at hslice
    obtain ⟨d, hd, hfollows⟩ := ih (hstands.move (hunread.trans hpart.symm))
    refine ⟨⟨part ++ d.text, c.refill.1.toList ++ d.lines, d.result.map (part.length + ·), d.cursor⟩,
      ?_, ?_, ?_, hfollows.stands, hreads.append hfollows.reads, ?_, ?_⟩
    · rw [LineCursor.pull?, if_neg hmost]
      simp only [hfailure, hended, hunread, List.isEmpty_cons, Bool.false_eq_true, ↓reduceIte, hslice,
        Option.bind_eq_bind, Option.bind_some, Text.offsetOf_eq, Text.slice?_take]
      rw [dif_neg hmove, hd]
      rfl
    · exact congrArg (part ++ ·) hfollows.text
    · exact congrArg (Except.map (part.length + ·)) hfollows.result
    · have haccount : d.text ++ later.source.unread =
          (ch :: rest).drop most ++ d.lines.flatMap Line.text := hfollows.account
      rw [List.append_assoc, haccount, ← List.append_assoc, hpart, ← hunread, ← hbefore,
        List.flatMap_append, List.append_assoc]
    · intro n hok hlt
      cases hlater : d.result with
      | error e =>
        rw [hlater] at hok
        cases hok
      | ok count =>
        rw [hlater] at hok
        cases hok
        have hlt : part.length + count < most := hlt
        obtain ⟨l, hl, hended⟩ := hfollows.short count hlater (by omega)
        exact ⟨l, List.mem_append_right _ hl, hended⟩

/-! ## Pulls one after another -/

/-- The books on some pulls, from where a source stands: what they have handed out, the lines they have
read, and what is still unread. -/
structure Accounted (s : LineSource) (mosts : List Nat) (draws : List Draw) (c : LineCursor) : Prop where
  /-- The answers are those of the source. -/
  answers : draws.map (fun d => (d.text, d.result)) = Source.answers s mosts
  reads : s.reader.Reads (draws.flatMap Draw.lines) c.reader
  boundary : c.line.IsBoundary c.offset
  /-- What was handed out and what is unread is what was unread and what the lines hold. -/
  account : ∃ unread, c.line.slice? c.offset c.line.byteSize = some unread ∧
    draws.flatMap Draw.text ++ unread = s.unread ++ (draws.flatMap Draw.lines).flatMap Line.text
  /-- A pull that succeeds counts what it has handed out, which is as much as was asked for unless the
  input ended. -/
  counts : ∀ asked ∈ mosts.zip draws, ∀ n, asked.2.result = .ok n →
    asked.2.text.length = n ∧ n ≤ asked.1 ∧
      (n < asked.1 → ∃ l ∈ asked.2.lines, l.text = [] ∧ l.failure = none)

/-- A pull that succeeds counts what it has handed out. -/
theorem Follows.counts {most : Nat} {d : Draw} (h : c.Follows s most (s.pull most) d) {n : Nat}
    (hok : d.result = .ok n) : d.text.length = n ∧ n ≤ most ∧
      (n < most → ∃ l ∈ d.lines, l.text = [] ∧ l.failure = none) := by
  have hlength : d.text.length = n := by
    rw [h.text]
    exact LineSource.length_text_of_ok s most n (h.result ▸ hok)
  refine ⟨hlength, ?_, h.short n hok⟩
  rw [← hlength, h.text]
  exact LineSource.length_text_le s most

/-- All pulls come to something, and the books on them balance. -/
theorem Stands.pulls? (h : c.Stands s) (mosts : List Nat) :
    ∃ draws c', c.pulls? mosts = some (draws, c') ∧ (∃ s', c'.Stands s') ∧ Accounted s mosts draws c' := by
  induction mosts generalizing c s with
  | nil =>
    refine ⟨[], c, rfl, ⟨s, h⟩, rfl, h.reader ▸ .nil c.reader, h.isBoundary, ⟨s.unread, h.slice?, ?_⟩, ?_⟩
    · exact (List.append_nil s.unread).symm
    · exact fun _ hasked => absurd hasked List.not_mem_nil
  | cons most mosts ih =>
    obtain ⟨d, hd, hfollows⟩ := h.pull? most
    obtain ⟨draws, c', hdraws, hstands, haccounted⟩ := ih hfollows.stands
    refine ⟨d :: draws, c', ?_, hstands, ?_, ?_, haccounted.boundary, ?_, ?_⟩
    · rw [LineCursor.pulls?, hd]
      simp only [Option.bind_eq_bind, Option.bind_some, hdraws]
    · rw [List.map_cons, haccounted.answers, hfollows.text, hfollows.result]
      rfl
    · have hlater := haccounted.reads
      rw [← hfollows.stands.reader] at hlater
      rw [← h.reader, List.flatMap_cons]
      exact hfollows.reads.append hlater
    · obtain ⟨unread, hslice, haccount⟩ := haccounted.account
      refine ⟨unread, hslice, ?_⟩
      rw [List.flatMap_cons, List.flatMap_cons, List.flatMap_append, List.append_assoc, haccount,
        ← List.append_assoc, hfollows.account, List.append_assoc]
    · intro asked hasked n hok
      rw [List.zip_cons_cons, List.mem_cons] at hasked
      rcases hasked with rfl | hasked
      · exact hfollows.counts hok
      · exact haccounted.counts asked hasked n hok

end LineCursor

/-! ## Drained sources -/

/-- No pulls hand out anything more. -/
def LineSource.Drained (s : LineSource) : Prop :=
  ∀ mosts, (Source.answers s mosts).flatMap Prod.fst = []

/-- No pulls with the cursor hand out anything more. -/
def LineCursor.Drained (c : LineCursor) : Prop :=
  ∀ mosts draws c', c.pulls? mosts = some (draws, c') → draws.flatMap Draw.text = []

namespace LineSource

variable {s : LineSource}

theorem Drained.source (h : s.Drained) (most : Nat) : (s.pull most).source.Drained :=
  fun mosts => (List.append_eq_nil_iff.1 (h (most :: mosts))).2

theorem Drained.text (h : s.Drained) (most : Nat) : (s.pull most).text = [] :=
  (List.append_eq_nil_iff.1 (h [most])).1

/-- A refill of a drained source brings nothing to hand out. -/
theorem Drained.refill (h : s.Drained) :
    s.refill.2.Drained ∧ (s.refill.1 = none → s.refill.2.unread = []) := by
  have htext := h.text 1
  have hsource := h.source 1
  rw [LineSource.pull, dif_neg Nat.one_ne_zero] at htext hsource
  rcases hrefill : s.refill with ⟨_ | failure, s'⟩
  · simp only [hrefill] at htext hsource
    cases hunread : s'.unread with
    | nil =>
      simp only [hunread] at hsource
      exact ⟨hsource, fun _ => rfl⟩
    | cons ch rest =>
      simp only [hunread] at htext
      cases htext
  · simp only [hrefill] at hsource
    exact ⟨hsource, fun hnone => absurd hnone (Option.some_ne_none failure)⟩

/-- Nothing is unread in a drained source. -/
theorem Drained.unread_eq_nil (h : s.Drained) : s.unread = [] := by
  by_contra hne
  have hrefill : s.refill = (none, s) := by
    rw [LineSource.refill, if_neg (by simpa using hne)]
  have hnil := h.refill.2
  rw [hrefill] at hnil
  exact hne (hnil rfl)

/-- The reader of a drained source leaves nothing in its lines. -/
theorem Drained.readLines (h : s.Drained) (n : Nat) : (s.reader.readLines n).flatMap Line.text = [] := by
  induction n generalizing s with
  | zero => rfl
  | succ n ih =>
    have hrefill : s.refill = (s.reader.readLine.failure, ⟨s.reader.readLine.text, s.reader.readLine.reader⟩) := by
      rw [LineSource.refill, if_pos (by rw [h.unread_eq_nil]; rfl)]
    have hlater := h.refill.1
    rw [hrefill] at hlater
    rw [ByteReader.readLines, List.flatMap_cons, ih hlater, List.append_nil]
    exact hlater.unread_eq_nil

/-- A source that holds nothing is drained. -/
theorem drained_of_supply (h : s.supply = 0) : s.Drained := by
  intro mosts
  induction mosts generalizing s with
  | nil => rfl
  | cons most mosts ih =>
    have hsupply := supply_pull_add_length s most
    have htext : (s.pull most).text = [] := List.eq_nil_of_length_eq_zero (by omega)
    have hlater := ih (s := (s.pull most).source) (by omega)
    exact List.append_eq_nil_iff.2 ⟨htext, hlater⟩

end LineSource

namespace LineCursor

variable {c : LineCursor} {s : LineSource}

/-- What pulls hand out tells a drained source. -/
theorem Stands.drained_iff (h : c.Stands s) : c.Drained ↔ s.Drained := by
  have htexts : ∀ mosts draws c', c.pulls? mosts = some (draws, c') →
      draws.flatMap Draw.text = (Source.answers s mosts).flatMap Prod.fst := by
    intro mosts draws c' hpulls
    obtain ⟨draws', c'', hpulls', -, haccounted⟩ := h.pulls? mosts
    rw [hpulls] at hpulls'
    cases hpulls'
    rw [← haccounted.answers, List.flatMap_map]
  constructor
  · intro hdrained mosts
    obtain ⟨draws, c', hpulls, -⟩ := h.pulls? mosts
    rw [← htexts mosts draws c' hpulls]
    exact hdrained mosts draws c' hpulls
  · intro hdrained mosts draws c' hpulls
    rw [htexts mosts draws c' hpulls]
    exact hdrained mosts

/-- A cursor at the end of its line, with nothing in the reader behind it, is drained. -/
theorem Stands.drained_of_rest (h : c.Stands s) (hend : c.offset = c.line.byteSize)
    (hrest : c.reader.rest = []) : c.Drained := by
  have hunread : s.unread = [] := h.offset_eq_iff.1 hend
  rw [h.reader] at hrest
  refine h.drained_iff.2 (LineSource.drained_of_supply ?_)
  rw [LineSource.supply, hunread, hrest]
  rfl

/-- Pulls that drain a reader hand out what the lines hold that they have read, and no more lines hold
anything. -/
theorem exists_lines_of_drained {r : ByteReader} {mosts : List Nat} {draws : List Draw} {c : LineCursor}
    (hpulls : (ofReader r).pulls? mosts = some (draws, c)) (hdrained : c.Drained) :
    ∃ lines r', r.Reads lines r' ∧ draws.flatMap Draw.text = lines.flatMap Line.text ∧
      ∀ n, (r'.readLines n).flatMap Line.text = [] := by
  obtain ⟨draws', c', hpulls', ⟨s, hstands⟩, haccounted⟩ := (stands_ofReader r).pulls? mosts
  rw [hpulls] at hpulls'
  cases hpulls'
  have hsource := hstands.drained_iff.1 hdrained
  obtain ⟨unread, hslice, haccount⟩ := haccounted.account
  rw [hstands.slice?, hsource.unread_eq_nil] at hslice
  cases hslice
  refine ⟨draws.flatMap Draw.lines, c.reader, haccounted.reads, ?_, ?_⟩
  · rwa [List.append_nil] at haccount
  · rw [hstands.reader]
    exact hsource.readLines

/-- Once no line holds anything more, more lines make no difference. -/
theorem text_eq_of_dry {r r₁ r₂ : ByteReader} {lines lines' : List Line} (h : r.Reads lines r₁)
    (h' : r.Reads lines' r₂) (hdry : ∀ n, (r₁.readLines n).flatMap Line.text = [])
    (hle : lines.length ≤ lines'.length) : lines'.flatMap Line.text = lines.flatMap Line.text := by
  obtain ⟨hlines, rfl⟩ := h
  obtain ⟨more, hmore⟩ := Nat.exists_eq_add_of_le hle
  rw [h'.1, hmore, ByteReader.readLines_add, List.flatMap_append, hdry more, List.append_nil, ← hlines]

/-- A source over a reader hands out every character that the reader leaves in its lines once, in order and
across failures; and pulls that drain the reader hand out the same text, however they cut it. -/
theorem pulls?_accounted (r : ByteReader) :
    (∀ mosts, ∃ draws c, (ofReader r).pulls? mosts = some (draws, c) ∧
      Accounted (LineSource.ofReader r) mosts draws c) ∧
    ∀ mosts mosts' draws draws' c c', (ofReader r).pulls? mosts = some (draws, c) →
      (ofReader r).pulls? mosts' = some (draws', c') → c.Drained → c'.Drained →
      draws.flatMap Draw.text = draws'.flatMap Draw.text := by
  constructor
  · intro mosts
    obtain ⟨draws, c, hpulls, -, haccounted⟩ := (stands_ofReader r).pulls? mosts
    exact ⟨draws, c, hpulls, haccounted⟩
  · intro mosts mosts' draws draws' c c' hpulls hpulls' hdrained hdrained'
    obtain ⟨lines, r₁, hreads, htext, hdry⟩ := exists_lines_of_drained hpulls hdrained
    obtain ⟨lines', r₂, hreads', htext', hdry'⟩ := exists_lines_of_drained hpulls' hdrained'
    rw [htext, htext']
    rcases Nat.le_total lines.length lines'.length with hle | hle
    · exact (text_eq_of_dry hreads hreads' hdry hle).symm
    · exact text_eq_of_dry hreads' hreads hdry' hle

/-- A failure in the middle of a line, bytes that are no text, and a character that arrives in two parts:
cut one way or another, the pulls hand out the same text. -/
theorem pulls?_accounted_two_ways :
    let r : ByteReader := ⟨[], [.bytes [0x61, 0xC3], .bytes [0xA9, 0x0A, 0x62], .failure .brokenPipe,
      .bytes [0xFF, 0x0A, 0x63]]⟩
    ∃ draws draws' c c', (ofReader r).pulls? [2, 3, 5, 1, 1] = some (draws, c) ∧
      (ofReader r).pulls? [9, 9, 9] = some (draws', c') ∧ c.Drained ∧ c'.Drained ∧
      draws.flatMap Draw.text = draws'.flatMap Draw.text ∧
      draws.flatMap Draw.text = ['a', 'é', '\n', 'b', 'c'] := by
  intro r
  have hdrained : ∀ mosts, ((ofReader r).pulls? mosts).any (fun p => p.2.offset = p.2.line.byteSize ∧
        p.2.reader.rest = [] ∧ p.1.flatMap Draw.text = ['a', 'é', '\n', 'b', 'c']) = true →
      ∃ draws c, (ofReader r).pulls? mosts = some (draws, c) ∧ c.Drained ∧
        draws.flatMap Draw.text = ['a', 'é', '\n', 'b', 'c'] := by
    intro mosts hany
    obtain ⟨draws, c, hpulls, ⟨s, hstands⟩, -⟩ := (stands_ofReader r).pulls? mosts
    rw [hpulls, Option.any_some, decide_eq_true_eq] at hany
    exact ⟨draws, c, hpulls, hstands.drained_of_rest hany.1 hany.2.1, hany.2.2⟩
  obtain ⟨draws, c, hpulls, hdry, htext⟩ := hdrained [2, 3, 5, 1, 1] (by decide +kernel)
  obtain ⟨draws', c', hpulls', hdry', -⟩ := hdrained [9, 9, 9] (by decide +kernel)
  have hsame := (pulls?_accounted r).2 _ _ draws draws' c c' hpulls hpulls' hdry hdry'
  exact ⟨draws, draws', c, c', hpulls, hpulls', hdry, hdry', hsame, htext⟩

end LineCursor

end Thicket
