import Thicket.Proofs.Folding.Greedy

/-!
# Matches when more roots come

What a walk takes depends on the roots that are there, and more may come behind them. Only a step that
runs out of roots can take another number of them then, and such a step has left nothing for the steps
after it. A walk is open exactly if one of its steps runs out. So a match is never lost when more roots
come; one that is not open stays as it is; and one that is open ends at the last root and grows with the
right root (`walk?_append`).
-/

namespace Thicket

/-! ## Steps -/

namespace Step

variable {s : Step} {roots : Forest}

theorem takes_le_takes_append (s : Step) (roots ext : Forest) :
    s.takes roots ≤ s.takes (roots ++ ext) := by
  rw [le_takes_iff, List.take_append_of_le_length (s.takes_le_length roots)]
  exact ⟨s.takes_le_most roots, s.take_takes roots⟩

/-- A step that does not run out takes the same roots whatever comes behind them. -/
theorem takes_append (h : ¬ s.RunsOut roots) (ext : Forest) : s.takes (roots ++ ext) = s.takes roots := by
  apply Nat.le_antisymm _ (s.takes_le_takes_append roots ext)
  by_contra hmore
  -- the step takes one root more; if this root was there before, it was taken before
  have hnext : s.takes roots + 1 ≤ s.takes (roots ++ ext) := by omega
  have hthere : s.takes roots + 1 ≤ roots.length := by
    have hlength := s.takes_le_length roots
    have hmost := s.takes_le_most (roots ++ ext)
    unfold RunsOut at h
    omega
  rw [le_takes_iff, List.take_append_of_le_length hthere, ← le_takes_iff] at hnext
  omega

/-- A step that runs out takes one more root as soon as one of its id comes. -/
theorem takes_lt_takes_append (h : s.RunsOut roots) {n : Node} (hn : n.id = s.id) :
    s.takes roots < s.takes (roots ++ [n]) := by
  obtain ⟨hall, hmost⟩ := h
  have hids := s.take_takes roots
  rw [hall, List.take_length] at hids
  show s.takes roots + 1 ≤ s.takes (roots ++ [n])
  rw [hall, le_takes_iff]
  refine ⟨hmost, ?_⟩
  have htake : (roots ++ [n]).take (roots.length + 1) = roots ++ [n] := by
    apply List.take_of_length_le
    rw [List.length_append, List.length_singleton]
  rw [htake, List.map_append, hids, List.map_singleton, hn, List.replicate_succ']

end Step

/-! ## Walks -/

namespace Sequence

/-- If a step of a walk runs out, the walk takes no root after it, and the steps after it need none. -/
theorem follow_runsOut {step : Step} {s : Sequence} {roots : Forest} {w : Walk}
    (h : step.RunsOut roots) (hw : s.follow (roots.drop (step.takes roots)) = some w) :
    w.length = 0 ∧ ∀ later : Forest, ∃ w', s.follow later = some w' := by
  rw [(Step.runsOut_iff_drop.1 h).2] at hw
  have hzero : w.length = 0 := Nat.le_zero.1 (length_le_of_follow hw)
  obtain ⟨counts, hspells⟩ := spells_of_follow hw
  rw [List.take_nil, List.map_nil] at hspells
  exact ⟨hzero, exists_follow hspells.least_eq_zero⟩

/-- When more roots come, a sequence that could be followed still can and takes no fewer of them; a walk
that is not open stays the same. -/
theorem follow_append {s : Sequence} {roots : Forest} {w : Walk} (h : s.follow roots = some w)
    (ext : Forest) :
    ∃ w', s.follow (roots ++ ext) = some w' ∧ w.length ≤ w'.length ∧ (w.isOpen = false → w' = w) := by
  induction s generalizing roots w with
  | nil =>
    rw [follow] at h
    exact ⟨w, h, Nat.le_refl _, fun _ => rfl⟩
  | cons step s ih =>
    obtain ⟨hleast, rest, hrest, rfl⟩ := follow_cons_eq_some_iff.1 h
    have hmono := step.takes_le_takes_append roots ext
    by_cases hout : step.RunsOut roots
    · -- the walk is open, and whatever the step leaves now, the steps after it need nothing of it
      obtain ⟨hzero, hlater⟩ := follow_runsOut hout hrest
      obtain ⟨rest', hrest'⟩ := hlater ((roots ++ ext).drop (step.takes (roots ++ ext)))
      refine ⟨_, follow_cons_eq_some_iff.2 ⟨Nat.le_trans hleast hmono, rest', hrest', rfl⟩, ?_, ?_⟩
      · show step.takes roots + rest.length ≤ step.takes (roots ++ ext) + rest'.length
        omega
      · intro hclosed
        simp [hout] at hclosed
    · have hsame := Step.takes_append hout ext
      have hout' : ¬ step.RunsOut (roots ++ ext) := by
        unfold Step.RunsOut at hout ⊢
        rw [hsame, List.length_append]
        have := step.takes_le_length roots
        omega
      obtain ⟨rest', hrest', hle, hclosed⟩ := ih hrest
      rw [← List.drop_append_of_le_length (step.takes_le_length roots)] at hrest'
      refine ⟨⟨step.takes roots + rest'.length, rest'.isOpen⟩, ?_, ?_, ?_⟩
      · rw [follow_cons_eq_some_iff, hsame, decide_eq_false hout']
        exact ⟨hleast, rest', hrest', rfl⟩
      · show step.takes roots + rest.length ≤ step.takes roots + rest'.length
        omega
      · rw [decide_eq_false hout, Bool.false_or]
        intro hopen
        rw [hclosed hopen]

/-- An open walk has come to the last root. -/
theorem length_eq_of_isOpen {s : Sequence} {roots : Forest} {w : Walk} (h : s.follow roots = some w)
    (hopen : w.isOpen = true) : w.length = roots.length := by
  induction s generalizing roots w with
  | nil =>
    rw [follow] at h
    cases h
    cases hopen
  | cons step s ih =>
    obtain ⟨-, rest, hrest, rfl⟩ := follow_cons_eq_some_iff.1 h
    show step.takes roots + rest.length = roots.length
    by_cases hout : step.RunsOut roots
    · rw [(follow_runsOut hout hrest).1, hout.1, Nat.add_zero]
    · rw [decide_eq_false hout, Bool.false_or] at hopen
      have hlength := ih hrest hopen
      have hle := step.takes_le_length roots
      rw [List.length_drop] at hlength
      omega

/-- An open walk takes one more root if it is the right one. -/
theorem exists_longer_of_isOpen {s : Sequence} {roots : Forest} {w : Walk} (h : s.follow roots = some w)
    (hopen : w.isOpen = true) :
    ∃ n w', s.follow (roots ++ [n]) = some w' ∧ w.length < w'.length := by
  induction s generalizing roots w with
  | nil =>
    rw [follow] at h
    cases h
    cases hopen
  | cons step s ih =>
    obtain ⟨hleast, rest, hrest, rfl⟩ := follow_cons_eq_some_iff.1 h
    by_cases hout : step.RunsOut roots
    · -- a root of the step's own id is the right one
      obtain ⟨hzero, hlater⟩ := follow_runsOut hout hrest
      let n : Node := .leaf ⟨step.id, []⟩
      have hmore : step.takes roots < step.takes (roots ++ [n]) := Step.takes_lt_takes_append hout rfl
      obtain ⟨rest', hrest'⟩ := hlater ((roots ++ [n]).drop (step.takes (roots ++ [n])))
      refine ⟨n, _, follow_cons_eq_some_iff.2 ⟨by omega, rest', hrest', rfl⟩, ?_⟩
      show step.takes roots + rest.length < step.takes (roots ++ [n]) + rest'.length
      omega
    · rw [decide_eq_false hout, Bool.false_or] at hopen
      obtain ⟨n, rest', hrest', hlt⟩ := ih hrest hopen
      rw [← List.drop_append_of_le_length (step.takes_le_length roots),
        ← Step.takes_append hout [n]] at hrest'
      have hsame := Step.takes_append hout [n]
      refine ⟨n, _, follow_cons_eq_some_iff.2 ⟨by omega, rest', hrest', rfl⟩, ?_⟩
      show step.takes roots + rest.length < step.takes (roots ++ [n]) + rest'.length
      omega

/-- When more roots come, a match is still one and takes no fewer of them. If it is not open, it stays the
same whatever comes; if it is, it ends at the last root and takes more if the right root comes. -/
theorem walk?_append {s : Sequence} {roots : Forest} {start : Nat} {w : Walk}
    (h : s.walk? (roots.drop start) = some w) :
    (∀ ext, ∃ w', s.walk? ((roots ++ ext).drop start) = some w' ∧ w.length ≤ w'.length) ∧
    (w.isOpen = false → ∀ ext, s.walk? ((roots ++ ext).drop start) = some w) ∧
    (w.isOpen = true → start + w.length = roots.length ∧
      ∃ n w', s.walk? ((roots ++ [n]).drop start) = some w' ∧ w.length < w'.length) := by
  obtain ⟨hfollow, hpos⟩ := walk?_eq_some_iff.1 h
  have hlength := length_le_of_follow hfollow
  rw [List.length_drop] at hlength
  -- the match begins among the roots that are there
  have hdrop : ∀ ext : Forest, (roots ++ ext).drop start = roots.drop start ++ ext := by
    intro ext
    apply List.drop_append_of_le_length
    omega
  have hwalk : ∀ (ext : Forest) (w' : Walk), s.follow (roots.drop start ++ ext) = some w' →
      w.length ≤ w'.length → s.walk? ((roots ++ ext).drop start) = some w' := by
    intro ext w' hw' hle
    rw [hdrop, walk?_eq_some_iff]
    exact ⟨hw', by omega⟩
  refine ⟨?_, ?_, ?_⟩
  · intro ext
    obtain ⟨w', hw', hle, -⟩ := follow_append hfollow ext
    exact ⟨w', hwalk ext w' hw' hle, hle⟩
  · intro hclosed ext
    obtain ⟨w', hw', hle, hsame⟩ := follow_append hfollow ext
    obtain rfl := hsame hclosed
    exact hwalk ext w' hw' hle
  · intro hopen
    obtain ⟨n, w', hw', hlt⟩ := exists_longer_of_isOpen hfollow hopen
    have hlast := length_eq_of_isOpen hfollow hopen
    rw [List.length_drop] at hlast
    exact ⟨by omega, n, w', hwalk [n] w' hw' (Nat.le_of_lt hlt), hlt⟩

end Sequence

end Thicket
