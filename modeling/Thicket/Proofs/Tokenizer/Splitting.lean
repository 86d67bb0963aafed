import Thicket.Proofs.Matcher.Lawful
import Thicket.Proofs.Tokenizer.Rounds
import Thicket.Source.Characters

/-!
# Resolving by recursion

What a text resolves to, said without a stack: the first rule that gives an answer cuts its token out of
the text, and what stands before and after the token is resolved by itself (`splitText`). Only the last part
of a text can be carried over, and being last is handed on to the part behind a token.

Resolving works on a stack of segments instead, and takes a segment for the last one when nothing is
left below it. `resolveSegments_unresolved` says that this comes to the same: a text on top of a stack
comes to what `splitText` makes of it, and then the rest of the stack to what it would come to alone.

The buffer that is resolved need not be copied to make segments of it: `resolveExtents` keeps the stack as
ranges of bytes of the whole buffer, and takes the text of a range where it needs it. If the matchers are
lawful, all ranges that it comes by are slices of the buffer, what is carried over stands at the end of
it, and the outcome is the same again (`resolveExtents_extents`).
-/

namespace Thicket

/-! ## Resolutions one after the other -/

namespace Resolution

/-- What no text comes to. -/
def nothing : Resolution := ⟨[], .ok []⟩

/-- A single piece. -/
def single (p : Piece) : Resolution := ⟨[p], .ok []⟩

/-- What a text comes to if a first part of it comes to `a` and the rest to `b`. If the first part is
refused, the rest is not looked at. -/
def andThen (a b : Resolution) : Resolution :=
  match a.carried with
  | .ok carried => ⟨a.pieces ++ b.pieces, b.carried.map (carried ++ ·)⟩
  | .error _ => a

theorem nothing_andThen (r : Resolution) : nothing.andThen r = r := by
  rcases r with ⟨pieces, e | carried⟩ <;> rfl

theorem andThen_nothing (r : Resolution) : r.andThen nothing = r := by
  rcases r with ⟨pieces, e | carried⟩
  · rfl
  · show (⟨pieces ++ [], .ok (carried ++ [])⟩ : Resolution) = ⟨pieces, .ok carried⟩
    rw [List.append_nil, List.append_nil]

theorem andThen_assoc (a b c : Resolution) : (a.andThen b).andThen c = a.andThen (b.andThen c) := by
  rcases a with ⟨pieces, e | carried⟩
  · rfl
  · rcases b with ⟨pieces', e' | carried'⟩
    · rfl
    · rcases c with ⟨pieces'', e'' | carried''⟩ <;>
        simp only [andThen, Except.map, List.append_assoc]

theorem single_andThen (p : Piece) (r : Resolution) : (single p).andThen r = r.cons p := by
  rcases r with ⟨pieces, e | carried⟩ <;> rfl

end Resolution

/-! ## Recursion over the text -/

/-- What a text resolves to. An empty text comes to nothing. Else the first rule that gives an answer
decides: a token comes behind what stands before it, which is not the last part of a text, and before
what stands after it, which is the last part if the text is. The beginning of a match is carried over,
or refused if it is as long as the buffer. Text without an answer is dropped. -/
def splitText (capacity : Nat) (rules : List Rule) (last : Bool) (t : Text) : Resolution :=
  match t with
  | [] => .nothing
  | c :: rest =>
    match _answer : Rule.firstAnswer? rules last (c :: rest) with
    | some (.full cut id) =>
      (splitText capacity rules false cut.before).andThen
        ((Resolution.single (.token ⟨id, cut.part⟩)).andThen (splitText capacity rules last cut.after))
    | some .begun =>
      if capacity ≤ (c :: rest).length then ⟨[], .error (Cause.longPartial capacity)⟩
      else ⟨[], .ok (c :: rest)⟩
    | none => .single (.dropped (c :: rest))
termination_by t.length
decreasing_by
  · have := Rule.firstAnswer?_length_lt _answer
    omega
  · have := Rule.firstAnswer?_length_lt _answer
    omega

variable {capacity : Nat} {rules : List Rule}

/-! ## The stack by the top segment -/

section Stack

variable {c : Char} {rest : Text} {work : List Segment}

theorem resolveSegments_full {cut : Text.Cut} {id : SymbolId}
    (h : Rule.firstAnswer? rules work.isEmpty (c :: rest) = some (.full cut id)) :
    resolveSegments capacity rules (.unresolved (c :: rest) :: work) =
      resolveSegments capacity rules
        (.unresolved cut.before :: .token ⟨id, cut.part⟩ :: .unresolved cut.after :: work) := by
  conv => lhs; rw [resolveSegments]
  split
  · next heq =>
    cases h.symm.trans heq
    rfl
  · next heq => cases h.symm.trans heq
  · next heq => cases h.symm.trans heq

/-- The beginning of a match ends the work. Nothing is below it. -/
theorem resolveSegments_begun (capacity : Nat)
    (h : Rule.firstAnswer? rules work.isEmpty (c :: rest) = some .begun) :
    work = [] ∧ resolveSegments capacity rules (.unresolved (c :: rest) :: work) =
      if capacity ≤ (c :: rest).length then ⟨[], .error (Cause.longPartial capacity)⟩
      else ⟨[], .ok (c :: rest)⟩ := by
  refine ⟨List.isEmpty_iff.1 (Rule.firstAnswer?_begun h), ?_⟩
  rw [resolveSegments]
  split
  · next heq => cases h.symm.trans heq
  · rfl
  · next heq => cases h.symm.trans heq

theorem resolveSegments_dropped
    (h : Rule.firstAnswer? rules work.isEmpty (c :: rest) = none) :
    resolveSegments capacity rules (.unresolved (c :: rest) :: work) =
      (resolveSegments capacity rules work).cons (.dropped (c :: rest)) := by
  rw [resolveSegments]
  split
  · next heq => cases h.symm.trans heq
  · next heq => cases h.symm.trans heq
  · rfl

end Stack

/-- A text on top of a stack comes to what it comes to by recursion, as the last one if the stack is
empty below it, and then the stack goes on. -/
theorem resolveSegments_unresolved (capacity : Nat) (rules : List Rule) (last : Bool) (t : Text)
    (work : List Segment) (hlast : work.isEmpty = last) :
    resolveSegments capacity rules (.unresolved t :: work) =
      (splitText capacity rules last t).andThen (resolveSegments capacity rules work) := by
  fun_induction splitText capacity rules last t generalizing work with
  | case1 =>
    rw [resolveSegments, Resolution.nothing_andThen]
  | case2 last c rest cut id answer ihbefore ihafter =>
    subst hlast
    -- below the text before the token stands the token, so that text is not the last one
    have hbefore := ihbefore (.token ⟨id, cut.part⟩ :: .unresolved cut.after :: work) rfl
    have hafter := ihafter work rfl
    rw [resolveSegments_full answer, hbefore, resolveSegments, hafter]
    rw [Resolution.andThen_assoc, Resolution.andThen_assoc, Resolution.single_andThen]
  | case3 last c rest answer hlong =>
    subst hlast
    obtain ⟨rfl, hbegun⟩ := resolveSegments_begun capacity answer
    rw [hbegun, if_pos hlong]
    rfl
  | case4 last c rest answer hshort =>
    subst hlast
    obtain ⟨rfl, hbegun⟩ := resolveSegments_begun capacity answer
    have hend : resolveSegments capacity rules [] = .nothing := by
      rw [resolveSegments]
      rfl
    rw [hbegun, if_neg hshort, hend, Resolution.andThen_nothing]
  | case5 last c rest answer =>
    subst hlast
    rw [resolveSegments_dropped answer, Resolution.single_andThen]

/-- A text resolves to what it comes to by recursion, as the last one. -/
theorem resolveText_eq_split (capacity : Nat) (rules : List Rule) (t : Text) :
    resolveText capacity rules t = splitText capacity rules true t := by
  have hend : resolveSegments capacity rules [] = .nothing := by
    rw [resolveSegments]
    rfl
  rw [resolveText, resolveSegments_unresolved capacity rules true t [] rfl, hend,
    Resolution.andThen_nothing]

/-! ## What the rules find, in bytes -/

/-- What the rules find in a text. -/
inductive Found where
  /-- A token of an id in a range of bytes, which is not empty. -/
  | full (start stop : Nat) (id : SymbolId) (start_lt_stop : start < stop)
  /-- The beginning of a match. -/
  | begun

namespace Rule

/-- What a rule finds in a text; the beginning of a match counts only in the last one. -/
def found? (r : Rule) (last : Bool) (t : Text) : Option Found :=
  match r.matcher.search t with
  | some (.full start stop) =>
    if h : start < stop then some (.full start stop r.id h) else none
  | some (.begun _) => if last then some .begun else none
  | none => none

/-- What the first rule that finds anything finds in a text. -/
def firstFound? (rules : List Rule) (last : Bool) (t : Text) : Option Found :=
  rules.findSome? (·.found? last t)

end Rule

/-- The range of bytes that an answer speaks of. -/
def Answer.found : Answer → Found
  | .full cut id =>
    .full (Text.byteSize cut.before) (Text.byteSize cut.before + Text.byteSize cut.part) id
      (Nat.lt_add_of_pos_right (Text.byteSize_pos cut.part_ne_nil))
  | .begun => .begun

namespace Rule

/-- What the rule of a lawful matcher finds is the range of its answer. -/
theorem found?_eq {r : Rule} (h : r.matcher.Lawful) (last : Bool) (t : Text) :
    r.found? last t = (r.answer? last t).map Answer.found := by
  unfold found? answer?
  cases hsearch : r.matcher.search t with
  | none => rfl
  | some found =>
    cases found with
    | begun start => cases last <;> rfl
    | full start stop =>
      obtain ⟨hstart, hstop⟩ := h.full t start stop hsearch
      by_cases hlt : start < stop
      · -- between the two boundaries stands the token
        obtain ⟨u, part, v, rfl, rfl, rfl⟩ := Text.exists_parts hstart hstop (Nat.le_of_lt hlt)
        have hne : part ≠ [] := by
          rintro rfl
          exact absurd hlt (Nat.lt_irrefl _)
        simp only [dif_pos hlt, Text.cut?_byteSize hne, Option.map_some, Answer.found]
      · simp only [dif_neg hlt, Text.cut?_of_le (Nat.le_of_not_lt hlt), Option.map_none]

/-- What is found in a text ends within it. -/
theorem byteSize_firstAnswer? {rules : List Rule} {last : Bool} {t : Text} {cut : Text.Cut}
    {id : SymbolId} (h : firstAnswer? rules last t = some (.full cut id)) :
    Text.byteSize t =
      Text.byteSize cut.before + Text.byteSize cut.part + Text.byteSize cut.after := by
  rw [← (firstAnswer?_full h).1, Text.byteSize_append, Text.byteSize_append]

theorem firstFound?_eq {rules : List Rule} (h : ∀ r ∈ rules, r.matcher.Lawful) (last : Bool)
    (t : Text) : firstFound? rules last t = (firstAnswer? rules last t).map Answer.found := by
  rw [firstFound?, firstAnswer?]
  induction rules with
  | nil => rfl
  | cons r rules ih =>
    have hlater := ih fun r' hr' => h r' (List.mem_cons_of_mem _ hr')
    rw [List.findSome?_cons, List.findSome?_cons, found?_eq (h r List.mem_cons_self)]
    cases r.answer? last t with
    | none => exact hlater
    | some answer => rfl

end Rule

/-! ## The stack in ranges of bytes -/

/-- A part of the buffer that is being resolved, by the bytes it takes. -/
inductive Extent where
  | unresolved (start stop : Nat)
  | token (start stop : Nat) (id : SymbolId)

/-- A measure of the work that a range takes. -/
def Extent.weight : Extent → Nat
  | .unresolved start stop => 3 * (stop - start) + 1
  | .token .. => 1

/-- Works a stack of ranges of a buffer off. There is no outcome if a range is no slice of the buffer, or
if a token is found beyond the text that was searched. What is carried over is the buffer from a place
on. -/
def resolveExtents (capacity : Nat) (rules : List Rule) (buffer : Text) (work : List Extent) :
    Option Resolution :=
  match work with
  | [] => some .nothing
  | .token start stop id :: work =>
    match buffer.slice? start stop with
    | none => none
    | some text =>
      (resolveExtents capacity rules buffer work).map (·.cons (.token ⟨id, text⟩))
  | .unresolved start stop :: work =>
    if stop ≤ start then resolveExtents capacity rules buffer work
    else
      match buffer.slice? start stop with
      | none => none
      | some text =>
        match Rule.firstFound? rules work.isEmpty text with
        | some (.full first last id _) =>
          if _inside : start + last ≤ stop then
            resolveExtents capacity rules buffer
              (.unresolved start (start + first) :: .token (start + first) (start + last) id ::
                .unresolved (start + last) stop :: work)
          else none
        | some .begun =>
          if capacity ≤ text.length then some ⟨[], .error (Cause.longPartial capacity)⟩
          else (buffer.slice? start (Text.byteSize buffer)).map fun carried => ⟨[], .ok carried⟩
        | none => (resolveExtents capacity rules buffer work).map (·.cons (.dropped text))
termination_by (work.map Extent.weight).foldr (· + ·) 0
decreasing_by
  all_goals simp only [List.map_cons, List.foldr_cons, Extent.weight]
  all_goals omega

namespace Segment

/-- The ranges of the segments of a stack, in a buffer in which the first one begins at an offset. -/
def extents (offset : Nat) : List Segment → List Extent
  | [] => []
  | .unresolved t :: work =>
    .unresolved offset (offset + Text.byteSize t) :: extents (offset + Text.byteSize t) work
  | .token s :: work =>
    .token offset (offset + Text.byteSize s.text) s.id :: extents (offset + Text.byteSize s.text) work

@[simp] theorem isEmpty_extents (offset : Nat) (work : List Segment) :
    (extents offset work).isEmpty = work.isEmpty := by
  rcases work with _ | ⟨t | s, work⟩ <;> rfl

end Segment

section Buffer

variable {buffer u : Text} {c : Char} {rest : Text} {work : List Segment}

/-- The text of an open range at the top of a stack is the slice of the buffer, and what the rules find in
it decides. -/
theorem resolveExtents_unresolved (hrules : ∀ r ∈ rules, r.matcher.Lawful)
    (hbuffer : buffer = u ++ (c :: rest ++ Segment.texts work)) :
    resolveExtents capacity rules buffer
        (Segment.extents (Text.byteSize u) (.unresolved (c :: rest) :: work)) =
      match Rule.firstAnswer? rules work.isEmpty (c :: rest) with
      | some (.full cut id) =>
        resolveExtents capacity rules buffer (Segment.extents (Text.byteSize u)
          (.unresolved cut.before :: .token ⟨id, cut.part⟩ :: .unresolved cut.after :: work))
      | some .begun =>
        if capacity ≤ (c :: rest).length then some ⟨[], .error (Cause.longPartial capacity)⟩
        else (buffer.slice? (Text.byteSize u) (Text.byteSize buffer)).map fun t => ⟨[], .ok t⟩
      | none =>
        (resolveExtents capacity rules buffer
          (Segment.extents (Text.byteSize (u ++ c :: rest)) work)).map
            (·.cons (.dropped (c :: rest))) := by
  have hopen : ¬ Text.byteSize u + Text.byteSize (c :: rest) ≤ Text.byteSize u := by
    have hpos := Text.byteSize_pos (List.cons_ne_nil c rest)
    omega
  have hslice : buffer.slice? (Text.byteSize u) (Text.byteSize u + Text.byteSize (c :: rest)) =
      some (c :: rest) := Text.slice?_eq_some_iff.2 ⟨u, Segment.texts work, hbuffer, rfl, rfl⟩
  rw [Segment.extents, resolveExtents, if_neg hopen, hslice]
  simp only [Segment.isEmpty_extents, Rule.firstFound?_eq hrules]
  cases hanswer : Rule.firstAnswer? rules work.isEmpty (c :: rest) with
  | none => simp only [Option.map_none, Text.byteSize_append]
  | some answer =>
    cases answer with
    | begun => rfl
    | full cut id =>
      have hsize := Rule.byteSize_firstAnswer? hanswer
      simp only [Option.map_some, Answer.found, Segment.extents, hsize, ← Nat.add_assoc]
      exact dif_pos (Nat.le_add_right _ _)

end Buffer

/-- Segments that stand side by side up to the end of the buffer are worked off in ranges of bytes as
they are in copies. -/
theorem resolveExtents_extents (hrules : ∀ r ∈ rules, r.matcher.Lawful) (buffer u : Text)
    (work : List Segment) (hbuffer : buffer = u ++ Segment.texts work) :
    resolveExtents capacity rules buffer (Segment.extents (Text.byteSize u) work) =
      some (resolveSegments capacity rules work) := by
  fun_induction resolveSegments capacity rules work generalizing u with
  | case1 =>
    rw [Segment.extents, resolveExtents]
    rfl
  | case2 s work ih =>
    have hafter : buffer = (u ++ s.text) ++ Segment.texts work := by
      rw [hbuffer, List.append_assoc]
      rfl
    have htoken : buffer.slice? (Text.byteSize u) (Text.byteSize u + Text.byteSize s.text) =
        some s.text := Text.slice?_eq_some_iff.2 ⟨u, Segment.texts work, hbuffer, rfl, rfl⟩
    have hlater := ih (u ++ s.text) hafter
    rw [Text.byteSize_append] at hlater
    rw [Segment.extents, resolveExtents, htoken, hlater]
    rfl
  | case3 work ih =>
    have hlater := ih u hbuffer
    have hempty : Text.byteSize u + Text.byteSize [] ≤ Text.byteSize u := Nat.le_refl _
    rw [Segment.extents, resolveExtents, if_pos hempty]
    exact hlater
  | case4 c rest work cut id answer ih =>
    have hlater := ih u (by rw [hbuffer, Rule.texts_firstAnswer? answer])
    rw [resolveExtents_unresolved hrules hbuffer, answer]
    exact hlater
  | case5 c rest work answer hlong =>
    rw [resolveExtents_unresolved hrules hbuffer, answer]
    exact if_pos hlong
  | case6 c rest work answer hshort =>
    -- nothing is below the segment, so it ends where the buffer does
    obtain rfl := List.isEmpty_iff.1 (Rule.firstAnswer?_begun answer)
    have hend : buffer = u ++ c :: rest := hbuffer.trans (congrArg (u ++ ·) (List.append_nil _))
    have hcarried : buffer.slice? (Text.byteSize u) (Text.byteSize buffer) = some (c :: rest) := by
      rw [hend]
      exact Text.slice?_rest u (c :: rest)
    rw [resolveExtents_unresolved hrules hbuffer, answer]
    show (if capacity ≤ (c :: rest).length then some _ else _) = _
    rw [if_neg hshort, hcarried]
    rfl
  | case7 c rest work answer ih =>
    have hafter : buffer = (u ++ c :: rest) ++ Segment.texts work := by
      rw [hbuffer, List.append_assoc]
      rfl
    rw [resolveExtents_unresolved hrules hbuffer, answer]
    show Option.map _ (resolveExtents capacity rules buffer _) = _
    rw [ih (u ++ c :: rest) hafter]
    rfl

/-- A whole buffer is worked off in ranges of bytes as it is split. -/
theorem resolveExtents_eq_split (capacity : Nat) (hrules : ∀ r ∈ rules, r.matcher.Lawful)
    (buffer : Text) :
    resolveExtents capacity rules buffer [.unresolved 0 (Text.byteSize buffer)] =
      some (splitText capacity rules true buffer) := by
  have hbuffer : buffer = [] ++ Segment.texts [.unresolved buffer] := by
    simp [Segment.text]
  have hextents : Segment.extents (Text.byteSize []) [.unresolved buffer] =
      [.unresolved 0 (Text.byteSize buffer)] := by
    simp [Segment.extents, Text.byteSize]
  rw [← hextents, resolveExtents_extents hrules buffer [] _ hbuffer, ← resolveText_eq_split]
  rfl

/-! ## Resolving the buffer of a tokenizer -/

namespace Tokenizer

variable {σ : Type}

/-- Resolving the buffer does what the recursive splitting of it says, and no more. The stack of ranges
comes to it without leaving the buffer or cutting a character. The tokens are queued and the dropped
texts are reported, both in order; resolving fails exactly when splitting does. What is carried over is
what stays in the buffer, and the head counts it; after a failure both are as they were. -/
theorem resolve_splits (t : Tokenizer σ) (hrules : ∀ r ∈ t.rules, r.matcher.Lawful) :
    let s := splitText t.sizes.capacity t.rules true t.buffer
    let t' := t.resolve.2.2
    resolveExtents t.sizes.capacity t.rules t.buffer [.unresolved 0 (Text.byteSize t.buffer)] =
      some s ∧
    t.resolve.1 = s.pieces ∧
    t'.queue = t.queue ++ Piece.tokens s.pieces ∧
    t'.queue.length = t.queue.length + tokenCount t.resolve.1 ∧
    t'.reports = t.reports ++
      (match t.listener with
        | some listener => (s.pieces.filterMap Piece.dropped?).map (listener, ·)
        | none => []) ∧
    (∀ e, t.resolve.2.1 = some e ↔ s.carried = .error e) ∧
    (∀ text, s.carried = .ok text → t'.buffer = text ∧ t'.head = text.length) ∧
    ∀ e, s.carried = .error e →
      e.category = .exhausted ∧ t'.buffer = t.buffer ∧ t'.head = t.head := by
  intro s t'
  have hextents := resolveExtents_eq_split t.sizes.capacity hrules t.buffer
  have hs : t.resolution = s := resolveText_eq_split t.sizes.capacity t.rules t.buffer
  have hresolve : t.resolve =
      match s.carried with
      | .ok text =>
        (s.pieces, none, { t.emit s.pieces with buffer := text, head := text.length })
      | .error e => (s.pieces, some e, t.emit s.pieces) := by
    rw [← hs]
    rfl
  have hcategory : ∀ e, s.carried = .error e → e.category = .exhausted := by
    intro e he
    rw [← hs] at he
    rw [resolveText_error he]
    rfl
  cases hcarried : s.carried with
  | ok text =>
    rw [hcarried] at hresolve
    have ht' : t' = { t.emit s.pieces with buffer := text, head := text.length } := by
      show t.resolve.2.2 = _
      rw [hresolve]
    rw [ht', hresolve]
    refine ⟨hextents, rfl, rfl, List.length_append, rfl, ?_, ?_, ?_⟩
    · intro e
      constructor <;> intro h <;> cases h
    · intro text' h
      cases h
      exact ⟨rfl, rfl⟩
    · intro e h
      cases h
  | error e =>
    have hexhausted := hcategory e hcarried
    rw [hcarried] at hresolve
    have ht' : t' = t.emit s.pieces := by
      show t.resolve.2.2 = _
      rw [hresolve]
    rw [ht', hresolve]
    refine ⟨hextents, rfl, rfl, List.length_append, rfl, ?_, ?_, ?_⟩
    · intro e'
      constructor <;> intro h <;> cases h <;> rfl
    · intro text h
      cases h
    · intro e' h
      cases h
      exact ⟨hexhausted, rfl, rfl⟩

/-- Before the exclamation mark the `x` is not the last text any more, so it is a token; the text behind
the mark begins with a letter of two bytes, and is carried over with it. -/
theorem resolve_splits_around_mark :
    let t : Tokenizer CharSource :=
      { rules := [⟨.literal ['!'], 1⟩, ⟨.literal ['x', 'y', 'z'], 2⟩, ⟨.literal ['x'], 3⟩]
        buffer := ['é', 'x', '!', 'ñ', 'x', 'y'], head := 6 }
    let s := splitText 200 t.rules true t.buffer
    s.pieces = [.dropped ['é'], .token ⟨3, ['x']⟩, .token ⟨1, ['!']⟩] ∧
      resolveExtents 200 t.rules t.buffer [.unresolved 0 8] = some s ∧
      t.resolve.2.2.queue = [⟨3, ['x']⟩, ⟨1, ['!']⟩] ∧
      t.resolve.2.2.buffer = ['ñ', 'x', 'y'] ∧ t.resolve.2.2.head = 3 := by
  intro t s
  have hrules : ∀ r ∈ t.rules, r.matcher.Lawful := by
    intro r hr
    simp only [t, List.mem_cons, List.not_mem_nil, or_false] at hr
    rcases hr with rfl | rfl | rfl <;> exact Matcher.lawful_literal _
  have hpieces : s.pieces = [.dropped ['é'], .token ⟨3, ['x']⟩, .token ⟨1, ['!']⟩] := by
    decide +kernel
  have hcarried : s.carried = .ok ['ñ', 'x', 'y'] := by decide +kernel
  obtain ⟨hextents, -, hqueue, -, -, -, hok, -⟩ := resolve_splits t hrules
  obtain ⟨hbuffer, hhead⟩ := hok _ hcarried
  refine ⟨hpieces, hextents, ?_, hbuffer, hhead⟩
  rw [hqueue]
  show [] ++ Piece.tokens s.pieces = _
  rw [hpieces]
  rfl

end Tokenizer

end Thicket
