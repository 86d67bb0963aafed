import Mathlib.Logic.Function.Iterate
import Thicket.Proofs.Tokenizer.Splitting

/-!
# The loop turn by turn

A buffer is resolved by a loop that works a stack of ranges off, one range a turn. Nothing in it bounds the
number of its turns: for one range on the stack a turn may put three there, of which two may be empty. The
contract of the matchers does. A token that is found takes a character at least, and the ranges beside it are
shorter than the one that was searched by as much; so each turn lowers the weight of the stack, and the loop
ends after at most three turns for each character and one more, with what the buffer resolves to
(`Loop.endsWithin_start`).
-/

namespace Thicket

/-! ## What a stack weighs -/

namespace Segment

/-- The weight of a stack. -/
def load : List Segment → Nat
  | [] => 0
  | s :: work => s.weight + load work

/-- A segment on top of a stack weighs something. -/
theorem load_lt_load_cons (s : Segment) (work : List Segment) : load work < load (s :: work) := by
  rw [load]
  cases s with
  | unresolved t =>
    rw [weight]
    omega
  | token s =>
    rw [weight]
    omega

end Segment

/-! ## Turns -/

/-- The loop between two turns. -/
inductive Loop where
  /-- There are ranges to work off, some pieces were emitted, and the text from a place on is to be carried
  over if there is such a place. -/
  | working (work : List Extent) (pieces : List Piece) (carry : Option Nat)
  | failed (pieces : List Piece) (e : Fault)
  /-- A range was no slice of the buffer. -/
  | broken

namespace Loop

/-- The loop before its first turn. -/
def start (buffer : Text) : Loop := .working [.unresolved 0 (Text.byteSize buffer)] [] none

/-- One turn. The ranges beside a token go on the stack wherever the token was found. -/
def turn (capacity : Nat) (rules : List Rule) (buffer : Text) : Loop → Loop
  | .working (.token start stop id :: work) pieces carry =>
    match buffer.slice? start stop with
    | none => .broken
    | some text => .working work (pieces ++ [.token ⟨id, text⟩]) carry
  | .working (.unresolved start stop :: work) pieces carry =>
    if stop ≤ start then .working work pieces carry
    else
      match buffer.slice? start stop with
      | none => .broken
      | some text =>
        match Rule.firstFound? rules work.isEmpty text with
        | some (.full first last id _) =>
          .working (.unresolved start (start + first) :: .token (start + first) (start + last) id ::
            .unresolved (start + last) stop :: work) pieces carry
        | some .begun =>
          if capacity ≤ text.length then .failed pieces (Cause.longPartial capacity)
          else .working work pieces (some start)
        | none => .working work (pieces ++ [.dropped text]) carry
  | ended => ended

/-- What the loop has come to, if it has ended: the stack is worked off, or too much would have to be carried
over. -/
def outcome? (buffer : Text) : Loop → Option Resolution
  | .working [] pieces none => some ⟨pieces, .ok []⟩
  | .working [] pieces (some start) =>
    (buffer.slice? start (Text.byteSize buffer)).map fun carried => ⟨pieces, .ok carried⟩
  | .failed pieces e => some ⟨pieces, .error e⟩
  | _ => none

/-! ## The end of the loop -/

/-- After no more turns than a number, the loop has come to a resolution. -/
def EndsWithin (capacity : Nat) (rules : List Rule) (buffer : Text) (turns : Nat) (l : Loop)
    (r : Resolution) : Prop :=
  ∃ n ≤ turns, ((turn capacity rules buffer)^[n] l).outcome? buffer = some r

variable {capacity turns turns' : Nat} {rules : List Rule} {buffer u : Text} {l l' : Loop} {r : Resolution}

theorem EndsWithin.of_outcome (h : l.outcome? buffer = some r) :
    EndsWithin capacity rules buffer turns l r :=
  ⟨0, Nat.zero_le turns, h⟩

theorem EndsWithin.of_turn (hturn : l.turn capacity rules buffer = l')
    (h : EndsWithin capacity rules buffer turns l' r) (hlt : turns < turns') :
    EndsWithin capacity rules buffer turns' l r := by
  subst hturn
  obtain ⟨n, hle, hn⟩ := h
  exact ⟨n + 1, by omega, hn⟩

/-- What the rules find in an open range at the top of the stack decides what a turn does. -/
theorem turn_unresolved {c : Char} {rest : Text} {work : List Segment} {pieces : List Piece}
    {carry : Option Nat} (hrules : ∀ r ∈ rules, r.matcher.Lawful)
    (hbuffer : buffer = u ++ (c :: rest ++ Segment.texts work)) :
    turn capacity rules buffer
        (.working (Segment.extents (Text.byteSize u) (.unresolved (c :: rest) :: work)) pieces carry) =
      match Rule.firstAnswer? rules work.isEmpty (c :: rest) with
      | some (.full cut id) =>
        .working (Segment.extents (Text.byteSize u)
          (.unresolved cut.before :: .token ⟨id, cut.part⟩ :: .unresolved cut.after :: work)) pieces carry
      | some .begun =>
        if capacity ≤ (c :: rest).length then .failed pieces (Cause.longPartial capacity)
        else .working (Segment.extents (Text.byteSize (u ++ c :: rest)) work) pieces
          (some (Text.byteSize u))
      | none =>
        .working (Segment.extents (Text.byteSize (u ++ c :: rest)) work)
          (pieces ++ [.dropped (c :: rest)]) carry := by
  have hopen : ¬ Text.byteSize u + Text.byteSize (c :: rest) ≤ Text.byteSize u := by
    have hpos := Text.byteSize_pos (List.cons_ne_nil c rest)
    omega
  have hslice : buffer.slice? (Text.byteSize u) (Text.byteSize u + Text.byteSize (c :: rest)) =
      some (c :: rest) := Text.slice?_eq_some_iff.2 ⟨u, Segment.texts work, hbuffer, rfl, rfl⟩
  rw [Segment.extents, turn, if_neg hopen, hslice]
  simp only [Segment.isEmpty_extents, Rule.firstFound?_eq hrules]
  cases hanswer : Rule.firstAnswer? rules work.isEmpty (c :: rest) with
  | none => simp only [Option.map_none, Text.byteSize_append]
  | some answer =>
    cases answer with
    | begun => simp only [Option.map_some, Answer.found, Text.byteSize_append]
    | full cut id =>
      have hsize := Rule.byteSize_firstAnswer? hanswer
      simp only [Option.map_some, Answer.found, Segment.extents, hsize, ← Nat.add_assoc]

/-- Segments that stand side by side up to the end of the buffer are worked off, in no more turns than they
weigh, as they are by recursion on the stack. -/
theorem endsWithin_extents (capacity : Nat) (hrules : ∀ r ∈ rules, r.matcher.Lawful)
    (work : List Segment) (hbuffer : buffer = u ++ Segment.texts work) (pieces : List Piece) :
    EndsWithin capacity rules buffer (Segment.load work)
      (.working (Segment.extents (Text.byteSize u) work) pieces none)
      ⟨pieces ++ (resolveSegments capacity rules work).pieces,
        (resolveSegments capacity rules work).carried⟩ := by
  fun_induction resolveSegments capacity rules work generalizing u pieces with
  | case1 =>
    rw [List.append_nil]
    exact .of_outcome rfl
  | case2 s work ih =>
    have hafter : buffer = (u ++ s.text) ++ Segment.texts work := by
      rw [hbuffer, List.append_assoc]
      rfl
    have hslice : buffer.slice? (Text.byteSize u) (Text.byteSize u + Text.byteSize s.text) =
        some s.text := Text.slice?_eq_some_iff.2 ⟨u, Segment.texts work, hbuffer, rfl, rfl⟩
    have hlater := ih hafter (pieces ++ [.token s])
    rw [List.append_assoc, Text.byteSize_append] at hlater
    refine .of_turn ?_ hlater (Segment.load_lt_load_cons _ work)
    rw [Segment.extents, turn, hslice]
  | case3 work ih =>
    have hempty : Text.byteSize u + Text.byteSize [] ≤ Text.byteSize u := Nat.le_refl _
    refine .of_turn ?_ (ih hbuffer pieces) (Segment.load_lt_load_cons _ work)
    rw [Segment.extents, turn, if_pos hempty]
    rfl
  | case4 c rest work cut id answer ih =>
    have hsame : buffer = u ++ Segment.texts
        (.unresolved cut.before :: .token ⟨id, cut.part⟩ :: .unresolved cut.after :: work) := by
      rw [hbuffer, Rule.texts_firstAnswer? answer]
    have hlength := Rule.firstAnswer?_length_lt answer
    refine .of_turn ?_ (ih hsame pieces) ?_
    · rw [turn_unresolved hrules hbuffer, answer]
    · -- the token has a character, so the three segments weigh less than the one did
      simp only [Segment.load, Segment.weight]
      omega
  | case5 c rest work answer hlong =>
    have hturn : turn capacity rules buffer (.working (Segment.extents (Text.byteSize u)
        (.unresolved (c :: rest) :: work)) pieces none) = .failed pieces (Cause.longPartial capacity) := by
      rw [turn_unresolved hrules hbuffer, answer]
      exact if_pos hlong
    refine .of_turn hturn (.of_outcome ?_) (Segment.load_lt_load_cons _ work)
    rw [List.append_nil]
    rfl
  | case6 c rest work answer hshort =>
    -- nothing is below the segment, so it ends where the buffer does
    obtain rfl := List.isEmpty_iff.1 (Rule.firstAnswer?_begun answer)
    have hend : buffer = u ++ c :: rest := hbuffer.trans (congrArg (u ++ ·) (List.append_nil _))
    have hcarried : buffer.slice? (Text.byteSize u) (Text.byteSize buffer) = some (c :: rest) := by
      rw [hend]
      exact Text.slice?_rest u (c :: rest)
    have hturn : turn capacity rules buffer (.working (Segment.extents (Text.byteSize u)
        [.unresolved (c :: rest)]) pieces none) = .working [] pieces (some (Text.byteSize u)) := by
      rw [turn_unresolved hrules hbuffer, answer]
      exact if_neg hshort
    refine .of_turn hturn (.of_outcome ?_) (Segment.load_lt_load_cons _ [])
    rw [outcome?, hcarried, List.append_nil]
    rfl
  | case7 c rest work answer ih =>
    have hafter : buffer = (u ++ c :: rest) ++ Segment.texts work := by
      rw [hbuffer, List.append_assoc]
      rfl
    have hlater := ih hafter (pieces ++ [.dropped (c :: rest)])
    rw [List.append_assoc] at hlater
    refine .of_turn ?_ hlater (Segment.load_lt_load_cons _ work)
    rw [turn_unresolved hrules hbuffer, answer]

/-- The loop ends after at most three turns for each character of the buffer and one more, with what the buffer
resolves to. -/
theorem endsWithin_start (capacity : Nat) (hrules : ∀ r ∈ rules, r.matcher.Lawful) (buffer : Text) :
    EndsWithin capacity rules buffer (3 * buffer.length + 1) (.start buffer)
      (resolveText capacity rules buffer) := by
  have hbuffer : buffer = [] ++ Segment.texts [.unresolved buffer] := by
    simp [Segment.text]
  have hstart : Segment.extents (Text.byteSize []) [.unresolved buffer] =
      [.unresolved 0 (Text.byteSize buffer)] := by
    simp [Segment.extents, Text.byteSize]
  have hends := endsWithin_extents capacity hrules [.unresolved buffer] hbuffer []
  rw [hstart] at hends
  exact hends

end Loop

end Thicket
