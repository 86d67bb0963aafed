import Mathlib.Data.Prod.Lex
import Mathlib.Order.Bounds.Basic
import Thicket.Proofs.Folding.Growth

/-!
# The match that is folded

Matches are compared by where they stand: first by the production, then by the alternative, then by the
number of roots before the match, so that places in the table and in the definition count more than the
place among the roots. `Grammar.IsFirst` says of a match that no other one stands before it in this order.

The search goes through the table in just this order: what it finds is the first match, and it finds
nothing only if no alternative matches anywhere (`firstReduction?_eq_some_iff`,
`firstReduction?_eq_none_iff`). So reducing folds the first match, and leaves all other roots as they are
(`Parser.reduce_folds_first`).
-/

namespace Thicket

/-- What a search through a list finds belongs to some place of it, and to no earlier one. -/
theorem exists_place_of_findSome? {α β : Type} {f : α → Option β} {l : List α} {b : β}
    (h : l.findSome? f = some b) :
    ∃ (place : ℕ) (a : α), l[place]? = some a ∧ f a = some b ∧
      ∀ earlier < place, ∀ a', l[earlier]? = some a' → f a' = none := by
  obtain ⟨before, a, after, rfl, hfound, hbefore⟩ := List.findSome?_eq_some_iff.1 h
  refine ⟨before.length, a, ?_, hfound, ?_⟩
  · rw [List.getElem?_append_right (Nat.le_refl _), Nat.sub_self, List.getElem?_cons_zero]
  · intro earlier hlt a' ha'
    rw [List.getElem?_append_left hlt] at ha'
    exact hbefore a' (List.mem_of_getElem? ha')

/-! ## The leftmost match of a sequence -/

namespace Sequence

variable {s : Sequence} {roots : Forest}

/-- Where there are no roots, there is no match. -/
theorem walk?_nil (s : Sequence) : s.walk? [] = none := by
  cases hwalk : s.walk? [] with
  | none => rfl
  | some w =>
    obtain ⟨hfollow, hpos⟩ := walk?_eq_some_iff.1 hwalk
    have hlength : w.length ≤ 0 := length_le_of_follow hfollow
    omega

/-- No match begins before the leftmost one. -/
theorem walk?_before_firstWalk? {start earlier : Nat} {w : Walk}
    (h : s.firstWalk? roots = some (start, w)) (hlt : earlier < start) :
    s.walk? (roots.drop earlier) = none := by
  induction roots generalizing start earlier with
  | nil =>
    rw [firstWalk?] at h
    cases h
  | cons root rest ih =>
    rw [firstWalk?] at h
    split at h
    · cases h
      omega
    · next hnone =>
      obtain ⟨⟨start', _⟩, hrest, heq⟩ := Option.map_eq_some_iff.1 h
      cases heq
      cases earlier with
      | zero => exact hnone
      | succ earlier =>
        rw [List.drop_succ_cons]
        exact ih hrest (by omega)

/-- There is no leftmost match just if there is none at all. -/
theorem firstWalk?_eq_none_iff :
    s.firstWalk? roots = none ↔ ∀ start, s.walk? (roots.drop start) = none := by
  induction roots with
  | nil =>
    refine iff_of_true rfl fun start => ?_
    rw [List.drop_nil]
    exact s.walk?_nil
  | cons root rest ih =>
    rw [firstWalk?]
    constructor
    · intro h start
      split at h
      · cases h
      · next hnone =>
        rw [Option.map_eq_none_iff, ih] at h
        cases start with
        | zero => exact hnone
        | succ start =>
          rw [List.drop_succ_cons]
          exact h start
    · intro h
      have hhere : s.walk? (root :: rest) = none := h 0
      rw [hhere]
      apply Option.map_eq_none_iff.2
      rw [ih]
      exact fun start => h (start + 1)

end Sequence

/-! ## The first match of a grammar -/

namespace Grammar

variable {g : Grammar} {roots : Forest} {r : Reduction}

/-- A match of some roots, by the alternative at one place of the production at one place of the table. -/
def Finds (g : Grammar) (roots : Forest) (production alternative : ℕ) (r : Reduction) : Prop :=
  ∃ d s, g.productions[production]? = some (r.id, d) ∧ d.alternatives[alternative]? = some s ∧
    s.walk? (roots.drop r.start) = some r.walk

/-- Where matches of a grammar stand, in lexicographic order: the place of the production, that of the
alternative, and the number of roots before the match. -/
def sites (g : Grammar) (roots : Forest) : Set (ℕ ×ₗ ℕ ×ₗ ℕ) :=
  {site | ∃ production alternative r, g.Finds roots production alternative r ∧
    site = toLex (production, toLex (alternative, r.start))}

/-- A match that no other one stands before. -/
def IsFirst (g : Grammar) (roots : Forest) (r : Reduction) : Prop :=
  ∃ production alternative, g.Finds roots production alternative r ∧
    IsLeast (g.sites roots) (toLex (production, toLex (alternative, r.start)))

/-- A match takes some of the roots that are there. -/
theorem Finds.bounds {production alternative : ℕ} (h : g.Finds roots production alternative r) :
    0 < r.walk.length ∧ r.start + r.walk.length ≤ roots.length := by
  obtain ⟨d, s, -, -, hwalk⟩ := h
  obtain ⟨hfollow, hpos⟩ := Sequence.walk?_eq_some_iff.1 hwalk
  have hlength := Sequence.length_le_of_follow hfollow
  rw [List.length_drop] at hlength
  omega

/-- At one site there is only one match. -/
theorem Finds.unique {production alternative : ℕ} {r' : Reduction}
    (h : g.Finds roots production alternative r) (h' : g.Finds roots production alternative r')
    (hstart : r.start = r'.start) : r = r' := by
  obtain ⟨d, s, hd, hs, hwalk⟩ := h
  obtain ⟨d', s', hd', hs', hwalk'⟩ := h'
  obtain ⟨hid, rfl⟩ := Prod.mk.inj (Option.some.inj (hd.symm.trans hd'))
  obtain rfl := Option.some.inj (hs.symm.trans hs')
  rw [hstart] at hwalk
  have hsame := Option.some.inj (hwalk.symm.trans hwalk')
  cases r
  cases r'
  simp_all

/-- There is only one first match. -/
theorem IsFirst.unique {r' : Reduction} (h : g.IsFirst roots r) (h' : g.IsFirst roots r') : r = r' := by
  obtain ⟨production, alternative, hfinds, hleast⟩ := h
  obtain ⟨production', alternative', hfinds', hleast'⟩ := h'
  have hsite := hleast.unique hleast'
  rw [EmbeddingLike.apply_eq_iff_eq, Prod.mk.injEq, EmbeddingLike.apply_eq_iff_eq, Prod.mk.injEq] at hsite
  obtain ⟨rfl, rfl, hstart⟩ := hsite
  exact hfinds.unique hfinds' hstart

/-- What the search finds is the first match. -/
theorem isFirst_of_firstReduction? (h : g.firstReduction? roots = some r) : g.IsFirst roots r := by
  obtain ⟨production, ⟨id, d⟩, hproduction, hdefinition, hhigher⟩ := exists_place_of_findSome? h
  obtain ⟨alternative, s, halternative, hsequence, hpreferred⟩ := exists_place_of_findSome? hdefinition
  obtain ⟨⟨start, w⟩, hwalk, rfl⟩ := Option.map_eq_some_iff.1 hsequence
  have hfinds : g.Finds roots production alternative ⟨id, start, w⟩ :=
    ⟨d, s, hproduction, halternative, Sequence.walk?_of_firstWalk? hwalk⟩
  refine ⟨production, alternative, hfinds, ⟨production, alternative, _, hfinds, rfl⟩, ?_⟩
  rintro _ ⟨production', alternative', r', ⟨d', s', hproduction', halternative', hwalk'⟩, rfl⟩
  have hfound : s'.firstWalk? roots ≠ none := by
    intro hnone
    rw [Sequence.firstWalk?_eq_none_iff.1 hnone] at hwalk'
    cases hwalk'
  -- a match that stands before this one would have been found in its stead
  rw [← not_lt, Prod.Lex.toLex_lt_toLex, Prod.Lex.toLex_lt_toLex]
  rintro (hlt | ⟨rfl, hlt | ⟨rfl, hlt⟩⟩)
  · have hnone := hhigher production' hlt _ hproduction'
    rw [List.findSome?_eq_none_iff] at hnone
    exact hfound (Option.map_eq_none_iff.1 (hnone s' (List.mem_of_getElem? halternative')))
  · cases hproduction.symm.trans hproduction'
    exact hfound (Option.map_eq_none_iff.1 (hpreferred alternative' hlt s' halternative'))
  · cases hproduction.symm.trans hproduction'
    cases halternative.symm.trans halternative'
    rw [Sequence.walk?_before_firstWalk? hwalk hlt] at hwalk'
    cases hwalk'

/-- The search finds nothing just if no alternative matches anywhere. -/
theorem firstReduction?_eq_none_iff :
    g.firstReduction? roots = none ↔
      ∀ production alternative r, ¬ g.Finds roots production alternative r := by
  constructor
  · rintro h production alternative r ⟨d, s, hproduction, halternative, hwalk⟩
    have hdefinition := List.findSome?_eq_none_iff.1 h _ (List.mem_of_getElem? hproduction)
    have hsequence := List.findSome?_eq_none_iff.1 hdefinition s (List.mem_of_getElem? halternative)
    have hnone := Sequence.firstWalk?_eq_none_iff.1 (Option.map_eq_none_iff.1 hsequence) r.start
    rw [hnone] at hwalk
    cases hwalk
  · intro h
    cases hfound : g.firstReduction? roots with
    | none => rfl
    | some r =>
      obtain ⟨production, alternative, hfinds, -⟩ := isFirst_of_firstReduction? hfound
      exact absurd hfinds (h production alternative r)

/-- The search finds the first match. -/
theorem firstReduction?_eq_some_iff : g.firstReduction? roots = some r ↔ g.IsFirst roots r := by
  refine ⟨isFirst_of_firstReduction?, fun h => ?_⟩
  cases hfound : g.firstReduction? roots with
  | none =>
    obtain ⟨production, alternative, hfinds, -⟩ := h
    exact absurd hfinds (firstReduction?_eq_none_iff.1 hfound production alternative r)
  | some r' => rw [(isFirst_of_firstReduction? hfound).unique h]

/-- When no more roots are to come, the first match is due. -/
theorem due?_false (g : Grammar) (roots : Forest) : g.due? false roots = g.firstReduction? roots := by
  unfold due?
  cases g.firstReduction? roots <;> rfl

end Grammar

/-! ## Folding a match -/

/-- Folding a match puts one node in the place of the roots that it takes. -/
theorem Reduction.exists_span {r : Reduction} {roots : Forest}
    (h : r.start + r.walk.length ≤ roots.length) :
    ∃ before span after, roots = before ++ (span ++ after) ∧ before.length = r.start ∧
      span.length = r.walk.length ∧ r.apply roots = before ++ .branch r.id span :: after := by
  refine ⟨roots.take r.start, (r.node roots).children, (roots.drop r.start).drop r.walk.length,
    (r.split_roots roots).symm, ?_, ?_, rfl⟩
  · exact List.length_take_of_le (by omega)
  · show ((roots.drop r.start).take r.walk.length).length = r.walk.length
    rw [List.length_take_of_le]
    rw [List.length_drop]
    omega

namespace Parser

variable {κ : Type}

/-- Reducing finds something to fold just if some alternative of some production matches the roots from some
place on. It folds the first match, in the order of productions, alternatives and places: the roots that
the match takes, at least one, become the children of one new node, in their order and as they are, and the
roots before and after them stay where they are. If there is no match, nothing changes. -/
theorem reduce_folds_first (p : Parser κ) :
    (p.reduce.1 = true ↔
      ∃ production alternative r, p.grammar.Finds p.roots production alternative r) ∧
    (p.reduce.1 = true → ∃ r before span after, p.grammar.IsFirst p.roots r ∧
      p.roots = before ++ (span ++ after) ∧ before.length = r.start ∧ span.length = r.walk.length ∧
      1 ≤ span.length ∧ p.reduce.2 = { p with roots := before ++ .branch r.id span :: after } ∧
      p.reduce.2.roots.length + (span.length - 1) = p.roots.length) ∧
    (p.reduce.1 = false → p.reduce.2 = p) := by
  rw [reduce, p.grammar.due?_false]
  cases hfound : p.grammar.firstReduction? p.roots with
  | none =>
    have hnone := Grammar.firstReduction?_eq_none_iff.1 hfound
    refine ⟨iff_of_false Bool.false_ne_true ?_, fun h => absurd h Bool.false_ne_true, fun _ => rfl⟩
    rintro ⟨production, alternative, r, hfinds⟩
    exact hnone production alternative r hfinds
  | some r =>
    obtain ⟨production, alternative, hfinds, hleast⟩ := Grammar.firstReduction?_eq_some_iff.1 hfound
    obtain ⟨hpos, hbound⟩ := hfinds.bounds
    obtain ⟨before, span, after, hroots, hbefore, hspan, happly⟩ := Reduction.exists_span hbound
    refine ⟨iff_of_true rfl ⟨production, alternative, r, hfinds⟩, fun _ => ?_, nofun⟩
    refine ⟨r, before, span, after, ⟨production, alternative, hfinds, hleast⟩, hroots, hbefore, hspan,
      by omega, ?_, ?_⟩
    · show ({ p with roots := r.apply p.roots } : Parser κ) = _
      rw [happly]
    · show (r.apply p.roots).length + (span.length - 1) = p.roots.length
      have hlength := congrArg List.length hroots
      rw [List.length_append, List.length_append] at hlength
      rw [happly, List.length_append, List.length_cons]
      omega

/-- The production that was defined first and redefined later is still the first one: the roots of its new
alternative are folded, although those of the other production stand before them. -/
theorem reduce_folds_first_redefined :
    let grammar := ((({} : Grammar).put 10 (by decide) ⟨[[.one 1]], by decide, by decide⟩).put 11
      (by decide) ⟨[[.one 1]], by decide, by decide⟩).put 10 (by decide)
        ⟨[[.one 7], [⟨2, 1, 2, by decide⟩]], by decide, by decide⟩
    let leaves : Forest := [1, 2, 2, 2].map fun id => .leaf ⟨id, id.text⟩
    let p : Parser (List Symbol) := { grammar, roots := leaves }
    p.reduce.1 = true ∧
      ∃ r before span after, p.grammar.IsFirst leaves r ∧ leaves = before ++ (span ++ after) ∧
        before.length = r.start ∧ span.length = r.walk.length ∧ 1 ≤ span.length ∧
        p.reduce.2 = { p with roots := before ++ .branch r.id span :: after } ∧
        p.reduce.2.roots.length + (span.length - 1) = 4 ∧ p.reduce.2.roots.map Node.id = [1, 10, 2] := by
  intro grammar leaves p
  have hreduce : p.reduce.1 = true := by decide
  obtain ⟨r, before, span, after, hfirst, hroots, hbefore, hspan, hpos, hafter, hlength⟩ :=
    (reduce_folds_first p).2.1 hreduce
  exact ⟨hreduce, r, before, span, after, hfirst, hroots, hbefore, hspan, hpos, hafter, hlength,
    by decide⟩

end Parser

end Thicket
