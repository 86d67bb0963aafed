import Thicket.Pattern.Frontier

/-!
# The threads that can be met without reading

Without reading a character a thread comes to finitely many others: `reach` lists them. The list is
closed under moving (`closed_reach`) and no longer than `threadCount` says (`length_reach_le`). So the
fuel of a frontier is enough: whoever follows threads of a closed list, each once, is done before the
fuel is (`Enough`).
-/

namespace Thicket.Pattern

/-- The threads that a move goes on as without reading. -/
def Move.next : Move → List Thread
  | .fork threads => threads
  | _ => []

@[simp] theorem Move.next_accept : Move.accept.next = [] := rfl

@[simp] theorem Move.next_read (chars : CharSet) (rest : Thread) : (read chars rest).next = [] := rfl

@[simp] theorem Move.next_fork (threads : List Thread) : (fork threads).next = threads := rfl

@[simp] theorem Move.mem_next_inOrder {greedy : Bool} {again stop t : Thread} :
    t ∈ (inOrder greedy again stop).next ↔ t = again ∨ t = stop := by
  cases greedy <;> simp [inOrder, Move.next, or_comm]

/-- A move forks into two threads at most. -/
theorem Move.length_next_le (n : Neighbours) (t : Thread) : (move n t).next.length ≤ 2 := by
  fun_cases move n t <;> simp only [inOrder, Move.next] <;> (try split) <;> simp

/-! ## Stages -/

/-- The threads met in up to `left` further rounds of a pattern, if `inside` are those met in it. -/
def roundStages (inside : Thread → List Thread) (p : Pattern) (greedy : Bool) (k : Thread) :
    (left least : Nat) → (most : Option Nat) → List Thread
  | 0, least, most => [.rounds p least most greedy :: k]
  | left + 1, least, most =>
    (.rounds p least most greedy :: k) ::
      (inside (.rounds p (least - 1) (most.map (· - 1)) greedy :: k) ++
        roundStages inside p greedy k left (least - 1) (most.map (· - 1)))

/-- The threads met between starting on a pattern and being done with it, if the thread then goes on
as `k`. -/
def stages : Pattern → Thread → List Thread
  | .empty, k => [.empty :: k]
  | .literal text, k => [.literal text :: k]
  | .set alphabet chars, k => [.set alphabet chars :: k]
  | .assert a, k => [.assert a :: k]
  | .seq p q, k => (.seq p q :: k) :: (p.stages (q :: k) ++ q.stages k)
  | .alt p q, k => (.alt p q :: k) :: (p.stages k ++ q.stages k)
  | .group number p, k => (.group number p :: k) :: p.stages k
  | .further p greedy, k => (.further p greedy :: k) :: p.stages (.further p greedy :: k)
  | .rounds p least (some most) greedy, k =>
    roundStages p.stages p greedy k (max least most) least (some most)
  | .rounds p least none greedy, k =>
    roundStages p.stages p greedy k least least none ++
      (.further p greedy :: k) :: p.stages (.further p greedy :: k)

theorem length_roundStages_le {inside : Thread → List Thread} {size : Nat}
    (hinside : ∀ k, (inside k).length ≤ size) (p : Pattern) (greedy : Bool) (k : Thread)
    (left least : Nat) (most : Option Nat) :
    (roundStages inside p greedy k left least most).length ≤ left * (size + 1) + 1 := by
  induction left generalizing least most with
  | zero => simp [roundStages]
  | succ left ih =>
    have hstep := hinside (.rounds p (least - 1) (most.map (· - 1)) greedy :: k)
    have hlater := ih (least - 1) (most.map (· - 1))
    simp only [roundStages, List.length_cons, List.length_append, Nat.succ_mul]
    omega

theorem length_stages_le (p : Pattern) (k : Thread) : (p.stages k).length ≤ p.stageCount := by
  induction p generalizing k with
  | empty => simp [stages, stageCount]
  | literal => simp [stages, stageCount]
  | set => simp [stages, stageCount]
  | assert => simp [stages, stageCount]
  | seq p q ihp ihq =>
    have := ihp (q :: k)
    have := ihq k
    simp only [stages, stageCount, List.length_cons, List.length_append]
    omega
  | alt p q ihp ihq =>
    have := ihp k
    have := ihq k
    simp only [stages, stageCount, List.length_cons, List.length_append]
    omega
  | group number p ih =>
    have := ih k
    simp only [stages, stageCount, List.length_cons]
    omega
  | further p greedy ih =>
    have := ih (.further p greedy :: k)
    simp only [stages, stageCount, List.length_cons]
    omega
  | rounds p least most greedy ih =>
    cases most with
    | some most =>
      have := length_roundStages_le ih p greedy k (max least most) least (some most)
      simp only [stages, stageCount, Nat.succ_mul]
      omega
    | none =>
      have := length_roundStages_le ih p greedy k least least none
      have := ih (.further p greedy :: k)
      simp only [stages, stageCount, List.length_append, List.length_cons, Nat.add_mul]
      omega

theorem start_mem_roundStages (inside : Thread → List Thread) (p : Pattern) (greedy : Bool)
    (k : Thread) (left least : Nat) (most : Option Nat) :
    (.rounds p least most greedy :: k) ∈ roundStages inside p greedy k left least most := by
  cases left <;> simp [roundStages]

/-- A pattern is met first. -/
theorem start_mem_stages (p : Pattern) (k : Thread) : p :: k ∈ p.stages k := by
  cases p with
  | rounds p least most greedy =>
    cases most with
    | some most => exact start_mem_roundStages ..
    | none => exact List.mem_append_left _ (start_mem_roundStages ..)
  | _ => simp [stages]

/-! ## Stages are closed under moving -/

section Closed

variable {n : Neighbours} {p : Pattern} {greedy : Bool} {k : Thread}

/-- A thread of a pattern goes on in the pattern or is done with it. -/
def LeadsInto (n : Neighbours) (p : Pattern) : Prop :=
  ∀ {k t t' : Thread}, t ∈ p.stages k → t' ∈ (move n t).next → t' ∈ p.stages k ∨ t' = k

theorem next_mem_roundStages_some (hp : LeadsInto n p) {left least most : Nat}
    (hleft : max least most ≤ left) {t t' : Thread}
    (ht : t ∈ roundStages p.stages p greedy k left least (some most))
    (hnext : t' ∈ (move n t).next) :
    t' ∈ roundStages p.stages p greedy k left least (some most) ∨ t' = k := by
  induction left generalizing least most with
  | zero =>
    obtain ⟨rfl, rfl⟩ : least = 0 ∧ most = 0 := by omega
    obtain rfl := List.mem_singleton.1 ht
    simp_all [move, Move.next]
  | succ left ih =>
    simp only [roundStages, Option.map_some, List.mem_cons, List.mem_append] at ht ⊢
    obtain rfl | ht | ht := ht
    · have hround := start_mem_stages p (.rounds p (least - 1) (some (most - 1)) greedy :: k)
      match least, most with
      | 0, 0 => simp_all [move, Move.next]
      | 0, most + 1 =>
        simp only [move, Move.mem_next_inOrder] at hnext
        obtain rfl | rfl := hnext
        · exact .inl (.inr (.inl hround))
        · exact .inr rfl
      | least + 1, most =>
        simp only [move, Move.next, Option.map_some, List.mem_singleton] at hnext
        exact .inl (.inr (.inl (hnext ▸ hround)))
    · -- from inside a round to the end of it, where the next one starts
      obtain ht' | rfl := hp ht hnext
      · exact .inl (.inr (.inl ht'))
      · exact .inl (.inr (.inr (start_mem_roundStages ..)))
    · obtain ht' | rfl := ih (by omega) ht
      · exact .inl (.inr (.inr ht'))
      · exact .inr rfl

theorem next_mem_roundStages_none (hp : LeadsInto n p) {least : Nat} {t t' : Thread}
    (ht : t ∈ roundStages p.stages p greedy k least least none) (hnext : t' ∈ (move n t).next) :
    t' ∈ roundStages p.stages p greedy k least least none ∨ t' = .further p greedy :: k ∨
      t' = p :: .further p greedy :: k ∨ t' = k := by
  induction least with
  | zero =>
    obtain rfl := List.mem_singleton.1 ht
    simp only [move] at hnext
    split at hnext
    · exact .inr (.inl (List.mem_singleton.1 hnext))
    · rw [Move.mem_next_inOrder] at hnext
      exact .inr (.inr hnext)
  | succ least ih =>
    simp only [roundStages, Option.map_none, Nat.add_sub_cancel, List.mem_cons,
      List.mem_append] at ht ⊢
    obtain rfl | ht | ht := ht
    · match least with
      | 0 => exact .inr (.inr (.inl (List.mem_singleton.1 hnext)))
      | least + 1 =>
        have hround := start_mem_stages p (.rounds p (least + 1) none greedy :: k)
        simp only [move, Move.next, Option.map_none, List.mem_singleton] at hnext
        exact .inl (.inr (.inl (hnext ▸ hround)))
    · obtain ht' | rfl := hp ht hnext
      · exact .inl (.inr (.inl ht'))
      · exact .inl (.inr (.inr (start_mem_roundStages ..)))
    · obtain ht' | ht' := ih ht
      · exact .inl (.inr (.inr ht'))
      · exact .inr ht'

theorem leadsInto (n : Neighbours) (p : Pattern) : LeadsInto n p := by
  induction p with
  | empty =>
    intro k t t' ht hnext
    obtain rfl := List.mem_singleton.1 ht
    exact .inr (List.mem_singleton.1 hnext)
  | literal text =>
    intro k t t' ht hnext
    obtain rfl := List.mem_singleton.1 ht
    match text with
    | [] => exact .inr (List.mem_singleton.1 hnext)
    | [c] => cases hnext
    | c :: d :: text => cases hnext
  | set =>
    intro k t t' ht hnext
    obtain rfl := List.mem_singleton.1 ht
    cases hnext
  | assert a =>
    intro k t t' ht hnext
    obtain rfl := List.mem_singleton.1 ht
    simp only [move, Move.next] at hnext
    split at hnext
    · exact .inr (List.mem_singleton.1 hnext)
    · cases hnext
  | seq p q ihp ihq =>
    intro k t t' ht hnext
    simp only [stages, List.mem_cons, List.mem_append] at ht ⊢
    obtain rfl | ht | ht := ht
    · have hstart := start_mem_stages p (q :: k)
      rw [← List.mem_singleton.1 hnext] at hstart
      exact .inl (.inr (.inl hstart))
    · obtain ht' | rfl := ihp ht hnext
      · exact .inl (.inr (.inl ht'))
      · exact .inl (.inr (.inr (start_mem_stages q k)))
    · obtain ht' | rfl := ihq ht hnext
      · exact .inl (.inr (.inr ht'))
      · exact .inr rfl
  | alt p q ihp ihq =>
    intro k t t' ht hnext
    simp only [stages, List.mem_cons, List.mem_append] at ht ⊢
    obtain rfl | ht | ht := ht
    · simp only [move, Move.next, List.mem_cons, List.not_mem_nil, or_false] at hnext
      obtain rfl | rfl := hnext
      · exact .inl (.inr (.inl (start_mem_stages p k)))
      · exact .inl (.inr (.inr (start_mem_stages q k)))
    · obtain ht' | rfl := ihp ht hnext
      · exact .inl (.inr (.inl ht'))
      · exact .inr rfl
    · obtain ht' | rfl := ihq ht hnext
      · exact .inl (.inr (.inr ht'))
      · exact .inr rfl
  | group number p ih =>
    intro k t t' ht hnext
    simp only [stages, List.mem_cons] at ht ⊢
    obtain rfl | ht := ht
    · have hstart := start_mem_stages p k
      rw [← List.mem_singleton.1 hnext] at hstart
      exact .inl (.inr hstart)
    · obtain ht' | rfl := ih ht hnext
      · exact .inl (.inr ht')
      · exact .inr rfl
  | further p greedy ih =>
    intro k t t' ht hnext
    simp only [stages, List.mem_cons] at ht ⊢
    obtain rfl | ht := ht
    · simp only [move, Move.mem_next_inOrder] at hnext
      obtain rfl | rfl := hnext
      · exact .inl (.inr (start_mem_stages p _))
      · exact .inr rfl
    · obtain ht' | rfl := ih ht hnext
      · exact .inl (.inr ht')
      · exact .inl (.inl rfl)
  | rounds p least most greedy ih =>
    intro k t t' ht hnext
    cases most with
    | some most => exact next_mem_roundStages_some ih (Nat.le_refl _) ht hnext
    | none =>
      simp only [stages, List.mem_append, List.mem_cons] at ht ⊢
      obtain ht | rfl | ht := ht
      · obtain ht' | rfl | rfl | rfl := next_mem_roundStages_none ih ht hnext
        · exact .inl (.inl ht')
        · exact .inl (.inr (.inl rfl))
        · exact .inl (.inr (.inr (start_mem_stages p _)))
        · exact .inr rfl
      · simp only [move, Move.mem_next_inOrder] at hnext
        obtain rfl | rfl := hnext
        · exact .inl (.inr (.inr (start_mem_stages p _)))
        · exact .inr rfl
      · obtain ht' | rfl := ih ht hnext
        · exact .inl (.inr (.inr ht'))
        · exact .inl (.inr (.inl rfl))

end Closed

/-! ## Reach -/

/-- The threads that a thread comes to without reading a character, and maybe some more. -/
def reach : Thread → List Thread
  | [] => [[]]
  | p :: k => p.stages k ++ reach k

theorem length_reach_le (t : Thread) : (reach t).length ≤ threadCount t := by
  induction t with
  | nil => simp [reach, threadCount]
  | cons p k ih =>
    have := length_stages_le p k
    simp only [reach, threadCount, List.length_append]
    omega

theorem self_mem_reach (t : Thread) : t ∈ reach t := by
  cases t with
  | nil => simp [reach]
  | cons p k => exact List.mem_append_left _ (start_mem_stages p k)

/-- Threads that cannot be left without reading. -/
def Closed (n : Neighbours) (threads : List Thread) : Prop :=
  ∀ t ∈ threads, ∀ t' ∈ (move n t).next, t' ∈ threads

theorem closed_reach (n : Neighbours) (t : Thread) : Closed n (reach t) := by
  induction t with
  | nil =>
    intro t ht t' hnext
    rw [List.mem_singleton.1 ht] at hnext
    cases hnext
  | cons p k ih =>
    intro t ht t' hnext
    rw [reach, List.mem_append] at ht ⊢
    obtain ht | ht := ht
    · obtain ht' | rfl := leadsInto n p ht hnext
      · exact .inl ht'
      · exact .inr (self_mem_reach t')
    · exact .inr (ih t ht t' hnext)

theorem closed_flatMap_reach (n : Neighbours) (threads : List Thread) :
    Closed n (threads.flatMap reach) := by
  intro t ht t' hnext
  obtain ⟨u, hu, htu⟩ := List.mem_flatMap.1 ht
  exact List.mem_flatMap.2 ⟨u, hu, closed_reach n u t htu t' hnext⟩

theorem length_flatMap_reach_le (threads : List Thread) :
    (threads.flatMap reach).length ≤ (threads.map threadCount).foldr (· + ·) 0 := by
  induction threads with
  | nil => simp
  | cons t threads ih =>
    have := length_reach_le t
    simp only [List.flatMap_cons, List.length_append, List.map_cons, List.foldr_cons]
    omega

/-! ## Enough fuel -/

/-- Following the threads of `todo` but for those in `seen` takes no more than the fuel: they lie in a
closed list, and each thread of it is followed once. -/
def Enough (n : Neighbours) (seen : List Thread) (fuel : Nat) (todo : List Thread) : Prop :=
  ∃ all, Closed n all ∧ todo ⊆ all ∧ todo.length + 2 * (all.filter (· ∉ seen)).length ≤ fuel

theorem enough_fuelFor (n : Neighbours) (threads : List Thread) :
    Enough n [] (fuelFor threads) threads := by
  refine ⟨threads.flatMap reach, closed_flatMap_reach n threads, ?_, ?_⟩
  · intro t ht
    exact List.mem_flatMap.2 ⟨t, ht, self_mem_reach t⟩
  · have := length_flatMap_reach_le threads
    have hall : (threads.flatMap reach).filter (· ∉ ([] : List Thread)) = threads.flatMap reach := by
      simp
    rw [hall, fuelFor]
    omega

theorem Enough.todo_eq_nil {n : Neighbours} {seen todo : List Thread} (h : Enough n seen 0 todo) :
    todo = [] := by
  obtain ⟨all, -, -, hfuel⟩ := h
  exact List.eq_nil_of_length_eq_zero (by omega)

theorem Enough.skip {n : Neighbours} {seen todo : List Thread} {fuel : Nat} {t : Thread}
    (h : Enough n seen (fuel + 1) (t :: todo)) : Enough n seen fuel todo := by
  obtain ⟨all, hclosed, hsub, hfuel⟩ := h
  refine ⟨all, hclosed, fun u hu => hsub (List.mem_cons_of_mem _ hu), ?_⟩
  rw [List.length_cons] at hfuel
  omega

/-- A thread that is followed is one less to follow, and puts at most two others on the list. -/
theorem Enough.follow {n : Neighbours} {seen todo : List Thread} {fuel : Nat} {t : Thread}
    (h : Enough n seen (fuel + 1) (t :: todo)) (hnew : t ∉ seen) :
    Enough n (t :: seen) fuel ((move n t).next ++ todo) := by
  obtain ⟨all, hclosed, hsub, hfuel⟩ := h
  have ht : t ∈ all := hsub List.mem_cons_self
  refine ⟨all, hclosed, ?_, ?_⟩
  · intro u hu
    rcases List.mem_append.1 hu with hu | hu
    · exact hclosed t ht u hu
    · exact hsub (List.mem_cons_of_mem _ hu)
  · have hnext := Move.length_next_le n t
    have hless : (all.filter (· ∉ t :: seen)).length < (all.filter (· ∉ seen)).length := by
      have hfilter : all.filter (· ∉ t :: seen) = (all.filter (· ∉ seen)).filter (· ≠ t) := by
        rw [List.filter_filter]
        congr 1
        funext u
        simp
      rw [hfilter, List.length_filter_lt_length_iff_exists]
      exact ⟨t, by simp [ht, hnew], by simp⟩
    rw [List.length_cons] at hfuel
    rw [List.length_append]
    omega

end Thicket.Pattern
