import Thicket.Proofs.Pattern.Course

/-!
# What the threads of a pattern inherit

A thread comes to nothing but parts of its patterns and further rounds of them. So what a pattern hands
down to its parts, and a body to its repetitions (`Inherited`), holds of every thread that is met without
reading (`Inherited.of_mem_next`), of every thread that is left after a character
(`Inherited.of_mem_after`), and so on to the end of the text (`Inherited.of_mem_follow`).

If all these threads move alike between some neighbours and between others, then so does the whole
frontier (`Inherited.frontier_congr`).
-/

namespace Thicket.Pattern

/-- A property that is handed down from a pattern to its parts, and from a body to its repetitions. -/
structure Inherited (P : Pattern → Prop) : Prop where
  literal : ∀ {c : Char} {text : Text}, P (.literal (c :: text)) → P (.literal text)
  seq : ∀ {p q : Pattern}, P (.seq p q) → P p ∧ P q
  alt : ∀ {p q : Pattern}, P (.alt p q) → P p ∧ P q
  group : ∀ {number : Nat} {p : Pattern}, P (.group number p) → P p
  further : ∀ {p : Pattern} {greedy : Bool}, P (.further p greedy) ↔ P p
  rounds : ∀ {p : Pattern} {least : Nat} {most : Option Nat} {greedy : Bool},
    P (.rounds p least most greedy) ↔ P p

/-- All patterns of a thread have the property. -/
def AllOf (P : Pattern → Prop) (t : Thread) : Prop := ∀ p ∈ t, P p

variable {P : Pattern → Prop} {n n' : Neighbours} {t t' rest : Thread} {chars : CharSet}

@[simp] theorem allOf_nil : AllOf P [] := fun _ hp => absurd hp List.not_mem_nil

@[simp] theorem allOf_cons {p : Pattern} {k : Thread} : AllOf P (p :: k) ↔ P p ∧ AllOf P k :=
  List.forall_mem_cons

theorem allOf_start {p : Pattern} (h : P p) : ∀ t ∈ [[p]], AllOf P t := by
  simpa using h

namespace Inherited

/-! ## Moving -/

theorem of_mem_next (hP : Inherited P) (ht : AllOf P t) (hnext : t' ∈ (move n t).next) :
    AllOf P t' := by
  cases t with
  | nil => cases hnext
  | cons p k =>
    obtain ⟨hp, hk⟩ := allOf_cons.1 ht
    cases p with
    | empty =>
      obtain rfl := List.mem_singleton.1 hnext
      exact hk
    | literal text =>
      rcases text with _ | ⟨c, _ | ⟨d, text⟩⟩
      · obtain rfl := List.mem_singleton.1 hnext
        exact hk
      · cases hnext
      · cases hnext
    | set => cases hnext
    | assert a =>
      simp only [move, Move.next_fork] at hnext
      split at hnext
      · obtain rfl := List.mem_singleton.1 hnext
        exact hk
      · cases hnext
    | seq p q =>
      obtain rfl := List.mem_singleton.1 hnext
      simpa [hk] using hP.seq hp
    | alt p q =>
      obtain ⟨hp, hq⟩ := hP.alt hp
      simp only [move, Move.next_fork, List.mem_cons, List.not_mem_nil, or_false] at hnext
      obtain rfl | rfl := hnext
      · simp [hp, hk]
      · simp [hq, hk]
    | group number p =>
      obtain rfl := List.mem_singleton.1 hnext
      simpa [hk] using hP.group hp
    | further p greedy =>
      rw [move, Move.mem_next_inOrder] at hnext
      obtain rfl | rfl := hnext
      · simpa [hk, hp] using hP.further.1 hp
      · exact hk
    | rounds p least most greedy =>
      have hbody := hP.rounds.1 hp
      have hfurther : ∀ greedy, P (.further p greedy) := fun _ => hP.further.2 hbody
      have hrounds : ∀ least most greedy, P (.rounds p least most greedy) :=
        fun _ _ _ => hP.rounds.2 hbody
      rcases least with _ | _ | least
      · rcases most with _ | _ | most
        · simp only [move] at hnext
          split at hnext
          · obtain rfl := List.mem_singleton.1 hnext
            simp [hfurther, hk]
          · rw [Move.mem_next_inOrder] at hnext
            obtain rfl | rfl := hnext <;> simp [hbody, hfurther, hk]
        · obtain rfl := List.mem_singleton.1 hnext
          exact hk
        · rw [move, Move.mem_next_inOrder] at hnext
          obtain rfl | rfl := hnext <;> simp [hbody, hrounds, hk]
      · cases most with
        | none =>
          obtain rfl := List.mem_singleton.1 hnext
          simp [hbody, hfurther, hk]
        | some most =>
          obtain rfl := List.mem_singleton.1 hnext
          simp [hbody, hrounds, hk]
      · obtain rfl := List.mem_singleton.1 hnext
        simp [hbody, hrounds, hk]

/-- A thread that reads goes on as a part of itself. -/
theorem of_read (hP : Inherited P) (ht : AllOf P t) (hmove : move n t = .read chars rest) :
    AllOf P rest := by
  fun_cases move n t with
  | case4 c k =>
    obtain ⟨-, rfl⟩ : CharSet.single c = chars ∧ k = rest := by simpa [move] using hmove
    exact (allOf_cons.1 ht).2
  | case5 c d text k =>
    obtain ⟨-, rfl⟩ : CharSet.single c = chars ∧ .literal (d :: text) :: k = rest := by
      simpa [move] using hmove
    exact allOf_cons.2 ⟨hP.literal (allOf_cons.1 ht).1, (allOf_cons.1 ht).2⟩
  | case6 alphabet chars' k =>
    obtain ⟨-, rfl⟩ : chars' = chars ∧ k = rest := by simpa [move] using hmove
    exact (allOf_cons.1 ht).2
  | _ => simp_all [move, inOrder]

/-! ## Frontiers -/

/-- The threads that are put on the list for one that forks have the property if all others do. -/
theorem of_mem_fork (hP : Inherited P) {threads todo : List Thread}
    (ht : AllOf P t) (hmove : move n t = .fork threads) (htodo : ∀ u ∈ todo, AllOf P u) :
    ∀ u ∈ threads ++ todo, AllOf P u := by
  intro u hu
  rcases List.mem_append.1 hu with hu | hu
  · exact hP.of_mem_next ht (by rw [hmove]; exact hu)
  · exact htodo u hu

theorem explore_congr (hP : Inherited P) (hsame : ∀ t, AllOf P t → move n t = move n' t)
    {fuel : Nat} {seen todo : List Thread} (h : ∀ t ∈ todo, AllOf P t) :
    explore n seen fuel todo = explore n' seen fuel todo := by
  induction fuel generalizing seen todo with
  | zero => rfl
  | succ fuel ih =>
    cases todo with
    | nil => rfl
    | cons t todo =>
      obtain ⟨ht, htodo⟩ := List.forall_mem_cons.1 h
      rw [explore, explore, hsame t ht, ih htodo]
      cases hmove : move n' t with
      | accept => rfl
      | read chars rest => simp only [ih htodo]
      | fork threads => simp only [ih (hP.of_mem_fork ht hmove htodo)]

/-- Threads that all move alike between two pairs of neighbours have the same frontier there. -/
theorem frontier_congr (hP : Inherited P) (hsame : ∀ t, AllOf P t → move n t = move n' t)
    {threads : List Thread} (h : ∀ t ∈ threads, AllOf P t) :
    frontier n threads = frontier n' threads := hP.explore_congr hsame h

/-- What a frontier reads comes from the read of a thread with the property. -/
theorem exists_read (hP : Inherited P) {fuel : Nat} {seen todo : List Thread}
    (h : ∀ t ∈ todo, AllOf P t) {read : CharSet × Thread}
    (hread : read ∈ (explore n seen fuel todo).reads) :
    ∃ t, AllOf P t ∧ move n t = .read read.1 read.2 := by
  induction fuel generalizing seen todo with
  | zero => cases hread
  | succ fuel ih =>
    cases todo with
    | nil => cases hread
    | cons t todo =>
      obtain ⟨ht, htodo⟩ := List.forall_mem_cons.1 h
      rw [explore] at hread
      split at hread
      · exact ih htodo hread
      · cases hmove : move n t with
        | accept => rw [hmove] at hread; cases hread
        | read chars rest =>
          rw [hmove] at hread
          rcases List.mem_cons.1 hread with rfl | hread
          · exact ⟨t, ht, hmove⟩
          · exact ih htodo hread
        | fork threads =>
          rw [hmove] at hread
          exact ih (hP.of_mem_fork ht hmove htodo) hread

/-- Threads with the property go on as such threads after a character. -/
theorem of_mem_after (hP : Inherited P) {threads : List Thread} (h : ∀ t ∈ threads, AllOf P t)
    {c : Char} : ∀ t ∈ (frontier n threads).after c, AllOf P t := by
  intro t ht
  rw [Frontier.after, List.mem_eraseDups, List.mem_filterMap] at ht
  obtain ⟨read, hread, heq⟩ := ht
  obtain ⟨-, rfl⟩ : read.1.contains c = true ∧ read.2 = t := by simpa using heq
  obtain ⟨u, hu, hmove⟩ := hP.exists_read h hread
  exact hP.of_read hu hmove

theorem of_mem_follow (hP : Inherited P) {before : Option Char} {threads : List Thread}
    (h : ∀ t ∈ threads, AllOf P t) (text : Text) :
    ∀ t ∈ follow before threads text, AllOf P t := by
  induction text generalizing before threads with
  | nil => exact h
  | cons c text ih => exact ih (hP.of_mem_after h)

end Inherited

end Thicket.Pattern
