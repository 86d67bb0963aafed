import Thicket.Proofs.Folding.Derivation

/-!
# The longest match

A sequence matches some roots that stand side by side if these fall into one block for each of its steps,
of a length that the step allows, and if there are any at all (`Sequence.Matches`). This leaves open which
block gets how many roots. A walk settles it by taking as many as it may at each step, and never gives
one back.

What a walk takes is a match. The other way round a walk can miss matches: of `a{1,3} a` it finds none in
two roots `a`, since the first step has taken both. This is the only way, as `walk?_longest` says: if two
steps of one id always have a step of another id between them that takes at least one root, then a walk
is found where there is a match, and it is the longest.
-/

namespace Thicket

/-! ## What a step takes -/

namespace Step

variable {s : Step} {roots : Forest}

/-- A step takes as many of the first roots as it may: whatever number of them has its id and is not
more than the most it may take. -/
theorem le_takes_iff {k : Nat} :
    k ≤ s.takes roots ↔ k ≤ s.most ∧ (roots.take k).map Node.id = List.replicate k s.id := by
  constructor
  · intro h
    refine ⟨Nat.le_trans h (s.takes_le_most roots), ?_⟩
    have htakes := congrArg (List.take k) (s.take_takes roots)
    rwa [← List.map_take, List.take_take, List.take_replicate, Nat.min_eq_left h] at htakes
  · rintro ⟨hmost, hids⟩
    have hlength := congrArg List.length hids
    rw [List.length_map, List.length_replicate] at hlength
    -- the first `k` roots are among those that the step looks at, and it takes all of them
    have hsplit : roots.take s.most = roots.take k ++ (roots.take s.most).drop k := by
      conv => lhs; rw [← List.take_append_drop k (roots.take s.most)]
      rw [List.take_take, Nat.min_eq_left hmost]
    have hall : ∀ n ∈ roots.take k, decide (n.id = s.id) = true := by
      intro n hn
      have hid : n.id ∈ List.replicate k s.id := hids ▸ List.mem_map_of_mem hn
      exact decide_eq_true (List.eq_of_mem_replicate hid)
    rw [takes, hsplit, List.takeWhile_append_of_pos hall, List.length_append]
    omega

end Step

namespace Sequence

/-! ## Matches -/

/-- The roots from `start` up to `stop` are a match of the sequence: there is at least one, and they fall
into a block for each step, of as many roots of its id as the step allows. -/
def Matches (s : Sequence) (roots : Forest) (start stop : Nat) : Prop :=
  start < stop ∧ stop ≤ roots.length ∧
    ∃ counts, s.Spells counts (((roots.drop start).take (stop - start)).map Node.id)

/-- Two steps of one id have a step of another id between them that takes at least one root. -/
def Separated (s : Sequence) : Prop :=
  ∀ before a between b after, s = before ++ a :: (between ++ b :: after) → a.id = b.id →
    ∃ m ∈ between, m.id ≠ a.id ∧ 1 ≤ m.least

theorem Separated.tail {step : Step} {s : Sequence} (h : Separated (step :: s)) : s.Separated := by
  intro before a between b after hs
  apply h (step :: before) a between b after
  rw [hs, List.cons_append]

/-- A step is separated from what follows if its id does not come again, or if a step that takes at least
one root stands before the next step of its id. -/
theorem separated_cons_iff {step : Step} {s : Sequence} :
    Separated (step :: s) ↔
      ((∀ b ∈ s, b.id ≠ step.id) ∨ ∃ m ∈ s.takeWhile (·.id ≠ step.id), 1 ≤ m.least) ∧
        s.Separated := by
  constructor
  · intro h
    refine ⟨?_, h.tail⟩
    by_cases hagain : ∀ b ∈ s, b.id ≠ step.id
    · exact .inl hagain
    · right
      -- the next step of the same id is the first that `takeWhile` leaves
      have hne : s.dropWhile (·.id ≠ step.id) ≠ [] := by
        simpa [List.dropWhile_eq_nil_iff] using hagain
      obtain ⟨b, after, hb⟩ := List.exists_cons_of_ne_nil hne
      have hid : step.id = b.id := by
        have hhead : (s.dropWhile (·.id ≠ step.id)).head hne = b := by
          simp only [hb, List.head_cons]
        have hnot := List.head_dropWhile_not (fun n : Step => decide (n.id ≠ step.id)) hne
        rw [hhead, decide_eq_false_iff_not, not_not] at hnot
        exact hnot.symm
      have hs : step :: s = [] ++ step :: (s.takeWhile (·.id ≠ step.id) ++ b :: after) := by
        rw [← hb, List.takeWhile_append_dropWhile, List.nil_append]
      obtain ⟨m, hm, -, hleast⟩ := h [] step _ b after hs hid
      exact ⟨m, hm, hleast⟩
  · rintro ⟨hstep, hsep⟩ before a between b after hs hid
    rcases before with _ | ⟨x, before⟩
    · obtain ⟨rfl, rfl⟩ := List.cons.inj hs
      rcases hstep with hnone | ⟨m, hm, hleast⟩
      · exact absurd hid.symm (hnone b (by simp))
      · have hne : m.id ≠ step.id := by
          simpa using List.mem_takeWhile_imp hm
        -- `takeWhile` does not go beyond the next step of the same id
        have hbetween : (between ++ b :: after).takeWhile (·.id ≠ step.id) =
            between.takeWhile (·.id ≠ step.id) := by
          simp only [List.takeWhile_append, List.takeWhile_cons, ← hid, ne_eq, not_true_eq_false,
            decide_false, Bool.false_eq_true, if_false, List.append_nil, ite_eq_right_iff]
          intro hlength
          exact ((List.takeWhile_prefix _).eq_of_length hlength).symm
        rw [hbetween] at hm
        exact ⟨m, (List.takeWhile_sublist _).subset hm, hne, hleast⟩
    · rw [List.cons_append] at hs
      exact hsep before a between b after (List.cons.inj hs).2 hid

/-- Whether a sequence is separated can be told from its steps. -/
def decSeparated : (s : Sequence) → Decidable s.Separated
  | [] => .isTrue fun before a between b after hs _ => absurd hs.symm (by simp)
  | step :: s =>
    have : Decidable (Separated s) := decSeparated s
    decidable_of_iff _ separated_cons_iff.symm

instance (s : Sequence) : Decidable s.Separated := decSeparated s

/-! ## Walks -/

/-- A sequence that needs no root can be followed over any roots. -/
theorem exists_follow {s : Sequence} (h : ∀ b ∈ s, b.least = 0) (roots : Forest) :
    ∃ w, s.follow roots = some w := by
  induction s generalizing roots with
  | nil => exact ⟨_, rfl⟩
  | cons step s ih =>
    have hleast : step.least ≤ step.takes roots := by
      rw [h step List.mem_cons_self]
      exact Nat.zero_le _
    obtain ⟨w, hw⟩ := ih (fun b hb => h b (List.mem_cons_of_mem _ hb)) (roots.drop (step.takes roots))
    exact ⟨_, follow_cons_eq_some_iff.2 ⟨hleast, w, hw, rfl⟩⟩

/-- If a step takes a root more than a block of its id has, then nothing comes behind the block: what
follows would begin with a step of the same id, and there is one between that needs another root. -/
theorem eq_nil_of_lt_takes {step : Step} {s : Sequence} {counts : List Nat} {ids : List SymbolId}
    {block rest : Forest} (hsep : Separated (step :: s)) (hspells : s.Spells counts ids)
    (hids : ids <+: rest.map Node.id) (hlt : block.length < step.takes (block ++ rest)) :
    ids = [] := by
  cases ids with
  | nil => rfl
  | cons id ids =>
    exfalso
    obtain ⟨before, a, after, count, _, _, hs, hbefore, -, -, hfirst⟩ := hspells.exists_step
    have ha : a.id = id := by
      rw [List.replicate_succ, List.cons_append] at hfirst
      exact (List.cons.inj hfirst).1.symm
    -- the root behind the block is taken by the step, so it has its id
    have hroot : id = step.id := by
      obtain ⟨more, hmore⟩ := hids
      obtain ⟨n, rest', rfl, rfl, -⟩ := List.map_eq_cons_iff.1 hmore.symm
      have htakes := (Step.le_takes_iff.1 hlt).2
      have htake : (block ++ n :: rest').take (block.length + 1) = block ++ [n] := by
        rw [List.take_length_add_append]
        rfl
      rw [htake, List.map_append, List.replicate_succ'] at htakes
      exact List.singleton_inj.1 (List.append_inj_right' htakes rfl)
    obtain ⟨m, hm, -, hleast⟩ :=
      hsep [] step before a after (by rw [hs, List.nil_append]) (by rw [ha, hroot])
    have := hbefore m hm
    omega

/-- If the steps are separated, following the sequence takes at least as many roots as it spells. -/
theorem follow_of_spells {s : Sequence} {counts : List Nat} {ids : List SymbolId} {roots : Forest}
    (hsep : s.Separated) (h : s.Spells counts ids) (hids : ids <+: roots.map Node.id) :
    ∃ w, s.follow roots = some w ∧ ids.length ≤ w.length := by
  induction s generalizing counts ids roots with
  | nil =>
    have hlength := h.length_eq
    rw [List.forall₂_nil_left_iff.1 h.1, List.sum_nil] at hlength
    exact ⟨⟨0, false⟩, rfl, Nat.le_of_eq hlength⟩
  | cons step s ih =>
    obtain ⟨count, counts, later, hcount, hrest, -, rfl⟩ := h.exists_block
    -- the roots of the first block, and those behind it
    obtain ⟨more, hmore⟩ := hids
    rw [List.append_assoc] at hmore
    obtain ⟨block, rest, rfl, hblock, hbehind⟩ := List.map_eq_append_iff.1 hmore.symm
    have hlater : later <+: rest.map Node.id := ⟨more, hbehind.symm⟩
    obtain rfl : block.length = count := by
      have hlength := congrArg List.length hblock
      rwa [List.length_map, List.length_replicate] at hlength
    have hle : block.length ≤ step.takes (block ++ rest) := by
      rw [Step.le_takes_iff, List.take_left]
      exact ⟨hcount.2, hblock⟩
    have hleast : step.least ≤ step.takes (block ++ rest) := Nat.le_trans hcount.1 hle
    have hwalk : ∃ w, follow s ((block ++ rest).drop (step.takes (block ++ rest))) = some w ∧
        block.length + later.length ≤ step.takes (block ++ rest) + w.length := by
      rcases Nat.eq_or_lt_of_le hle with heq | hlt
      · obtain ⟨w, hw, hlength⟩ := ih hsep.tail hrest hlater
        rw [← heq, List.drop_left]
        exact ⟨w, hw, by omega⟩
      · have hnil := eq_nil_of_lt_takes hsep hrest hlater hlt
        rw [hnil] at hrest
        obtain ⟨w, hw⟩ := exists_follow hrest.least_eq_zero
          ((block ++ rest).drop (step.takes (block ++ rest)))
        refine ⟨w, hw, ?_⟩
        rw [hnil, List.length_nil]
        omega
    obtain ⟨w, hw, hlength⟩ := hwalk
    refine ⟨_, follow_cons_eq_some_iff.2 ⟨hleast, w, hw, rfl⟩, ?_⟩
    rw [List.length_append, List.length_replicate]
    exact hlength

/-- What a walk takes is a match. If any two steps of one id have a step of another id between them that
takes at least one root, a walk is found wherever there is a match, and no match is longer. -/
theorem walk?_longest (s : Sequence) (roots : Forest) (start : Nat) :
    (∀ w, s.walk? (roots.drop start) = some w → s.Matches roots start (start + w.length)) ∧
    (s.Separated → ∀ stop, s.Matches roots start stop →
      ∃ w, s.walk? (roots.drop start) = some w ∧ stop ≤ start + w.length) := by
  constructor
  · intro w hw
    obtain ⟨hfollow, hpos⟩ := walk?_eq_some_iff.1 hw
    have hlength := length_le_of_follow hfollow
    rw [List.length_drop] at hlength
    obtain ⟨counts, hspells⟩ := spells_of_follow hfollow
    refine ⟨by omega, by omega, counts, ?_⟩
    rwa [Nat.add_sub_cancel_left]
  · rintro hsep stop ⟨hlt, hstop, counts, hspells⟩
    have hprefix : ((roots.drop start).take (stop - start)).map Node.id <+:
        (roots.drop start).map Node.id := (List.take_prefix _ _).map _
    obtain ⟨w, hw, hlength⟩ := follow_of_spells hsep hspells hprefix
    rw [List.length_map, List.length_take, List.length_drop] at hlength
    exact ⟨w, walk?_eq_some_iff.2 ⟨hw, by omega⟩, by omega⟩

/-- Around a step of another id the same id may come twice: in `c a a b a a` the sequence `a{1,2} b a{0,3}`
matches the roots from the first `a` to the third, and the walk takes the fourth as well. -/
theorem walk?_longest_around_other :
    let s : Sequence := [⟨1, 1, 2, by decide⟩, .one 2, ⟨1, 0, 3, by decide⟩]
    let roots : Forest := [3, 1, 1, 2, 1, 1].map fun id => .leaf ⟨id, []⟩
    s.Separated ∧ s.Matches roots 1 5 ∧
      ∃ w, s.walk? (roots.drop 1) = some w ∧ 5 ≤ 1 + w.length ∧ s.Matches roots 1 (1 + w.length) := by
  intro s roots
  have hsep : s.Separated := by decide
  have hmatches : s.Matches roots 1 5 :=
    ⟨by decide, by decide, [2, 1, 1],
      .cons ⟨by decide, by decide⟩ (.cons ⟨by decide, by decide⟩ (.cons ⟨by decide, by decide⟩ .nil)), rfl⟩
  obtain ⟨hwalks, hlongest⟩ := walk?_longest s roots 1
  obtain ⟨w, hw, hlength⟩ := hlongest hsep 5 hmatches
  exact ⟨hsep, hmatches, w, hw, hlength, hwalks w hw⟩

-- Two steps of one id with nothing between them: the first takes both roots.
example :
    let s : Sequence := [⟨1, 1, 3, by decide⟩, .one 1]
    let roots : Forest := [.leaf ⟨1, []⟩, .leaf ⟨1, []⟩]
    s.Matches roots 0 2 ∧ s.walk? roots = none :=
  ⟨⟨by decide, by decide, [1, 1], .cons ⟨by decide, by decide⟩ (.cons ⟨by decide, by decide⟩ .nil), rfl⟩,
    by decide⟩

end Sequence

end Thicket
