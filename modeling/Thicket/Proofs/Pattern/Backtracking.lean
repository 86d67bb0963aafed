import Thicket.Pattern.Frontier

/-!
# Leftmost-first matching

`Tries` says what a backtracking search comes to: it takes up the threads that are left to try in
order, follows each as far as it leads, and goes back to the next one when it fails. The first match
that it comes to is the one that is preferred. At one place of the text no thread is taken up twice,
which is what ends repetitions of a body that matches nothing.

The search has just one result (`Tries.unique`). What a list of threads comes to is the first thing
that one of them comes to alone (`tries_findSome?`), although a thread that was taken up for an earlier
one is not taken up again: if the earlier one has failed, such a thread fails as well.
-/

namespace Thicket.Pattern

/-- A backtracking search before a text ends with a result: the number of characters of the first match
that it comes to, or none. `todo` are the threads that are left to try, and `seen` those that were
taken up at this place. -/
inductive Tries : (before : Option Char) → (seen todo : List Thread) → Text → Option Nat → Prop
  /-- Nothing is left to try. -/
  | exhausted {before : Option Char} {seen : List Thread} {text : Text} :
    Tries before seen [] text none
  /-- The thread was taken up here before. -/
  | again {before : Option Char} {seen todo : List Thread} {t : Thread} {text : Text}
    {r : Option Nat} (hseen : t ∈ seen) (later : Tries before seen todo text r) :
    Tries before seen (t :: todo) text r
  /-- The thread has nothing left to match. -/
  | accept {before : Option Char} {seen todo : List Thread} {t : Thread} {text : Text}
    (hnew : t ∉ seen) (hmove : move ⟨before, text.head?⟩ t = .accept) :
    Tries before seen (t :: todo) text (some 0)
  /-- The thread needs a character that does not come. -/
  | stuck {before : Option Char} {seen todo : List Thread} {t rest : Thread} {chars : CharSet}
    {text : Text} {r : Option Nat} (hnew : t ∉ seen)
    (hmove : move ⟨before, text.head?⟩ t = .read chars rest)
    (hchars : ∀ c ∈ text.head?, chars.contains c = false)
    (later : Tries before (t :: seen) todo text r) : Tries before seen (t :: todo) text r
  /-- The thread reads a character and comes to a match. -/
  | found {before : Option Char} {seen todo : List Thread} {t rest : Thread} {chars : CharSet}
    {c : Char} {text : Text} {n : Nat} (hnew : t ∉ seen)
    (hmove : move ⟨before, some c⟩ t = .read chars rest) (hchars : chars.contains c = true)
    (inner : Tries (some c) [] [rest] text (some n)) :
    Tries before seen (t :: todo) (c :: text) (some (n + 1))
  /-- The thread reads a character and fails later. -/
  | failed {before : Option Char} {seen todo : List Thread} {t rest : Thread} {chars : CharSet}
    {c : Char} {text : Text} {r : Option Nat} (hnew : t ∉ seen)
    (hmove : move ⟨before, some c⟩ t = .read chars rest) (hchars : chars.contains c = true)
    (inner : Tries (some c) [] [rest] text none)
    (later : Tries before (t :: seen) todo (c :: text) r) : Tries before seen (t :: todo) (c :: text) r
  /-- The thread goes on as others, which are tried before all that is left. -/
  | fork {before : Option Char} {seen todo threads : List Thread} {t : Thread} {text : Text}
    {r : Option Nat} (hnew : t ∉ seen) (hmove : move ⟨before, text.head?⟩ t = .fork threads)
    (later : Tries before (t :: seen) (threads ++ todo) text r) :
    Tries before seen (t :: todo) text r

variable {before : Option Char} {seen todo : List Thread} {text : Text} {r : Option Nat}

theorem Tries.unique {r' : Option Nat} (h : Tries before seen todo text r)
    (h' : Tries before seen todo text r') : r = r' := by
  induction h generalizing r' with
  | exhausted => cases h'; rfl
  | again hseen _ ih => cases h' <;> grind
  | accept hnew hmove => cases h' <;> grind
  | stuck hnew hmove hchars _ ih => cases h' <;> grind
  | found hnew hmove hchars _ ih => cases h' <;> grind
  | failed hnew hmove hchars _ _ ihinner ih => cases h' <;> grind
  | fork hnew hmove _ ih => cases h' <;> grind

/-! ## Threads that were taken up -/

/-- Only the members count among the threads that were taken up. -/
theorem Tries.congr_seen {seen' : List Thread} (h : Tries before seen todo text r)
    (hseen : ∀ t, t ∈ seen' ↔ t ∈ seen) : Tries before seen' todo text r := by
  have hcons : ∀ {a b : List Thread} (t : Thread), (∀ u, u ∈ a ↔ u ∈ b) →
      ∀ u, u ∈ t :: a ↔ u ∈ t :: b := by
    intro a b t hab u
    rw [List.mem_cons, List.mem_cons, hab]
  induction h generalizing seen' with
  | exhausted => exact .exhausted
  | again hmem _ ih => exact .again ((hseen _).2 hmem) (ih hseen)
  | accept hnew hmove => exact .accept (fun h => hnew ((hseen _).1 h)) hmove
  | stuck hnew hmove hchars _ ih =>
    exact .stuck (fun h => hnew ((hseen _).1 h)) hmove hchars (ih (hcons _ hseen))
  | found hnew hmove hchars inner => exact .found (fun h => hnew ((hseen _).1 h)) hmove hchars inner
  | failed hnew hmove hchars inner _ _ ih =>
    exact .failed (fun h => hnew ((hseen _).1 h)) hmove hchars inner (ih (hcons _ hseen))
  | fork hnew hmove _ ih =>
    exact .fork (fun h => hnew ((hseen _).1 h)) hmove (ih (hcons _ hseen))

/-- Threads that were taken up before are left out. -/
theorem Tries.of_append {threads : List Thread} (hsub : threads ⊆ seen)
    (h : Tries before seen (threads ++ todo) text r) : Tries before seen todo text r := by
  induction threads with
  | nil => exact h
  | cons t threads ih =>
    have ht : t ∈ seen := hsub List.mem_cons_self
    have hrest : threads ⊆ seen := fun u hu => hsub (List.mem_cons_of_mem _ hu)
    cases h with
    | again _ later => exact ih hrest later
    | accept hnew => exact absurd ht hnew
    | stuck hnew => exact absurd ht hnew
    | found hnew => exact absurd ht hnew
    | failed hnew => exact absurd ht hnew
    | fork hnew => exact absurd ht hnew

/-- A match that is found before some threads are left over is found all the same if they are. -/
theorem Tries.append_of_some {n : Nat} (h : Tries before seen todo text (some n))
    (more : List Thread) : Tries before seen (todo ++ more) text (some n) := by
  generalize hr : some n = r at h
  induction h with
  | exhausted => cases hr
  | again hseen _ ih => exact .again hseen (ih hr)
  | accept hnew hmove => exact .accept hnew hmove
  | stuck hnew hmove hchars _ ih => exact .stuck hnew hmove hchars (ih hr)
  | found hnew hmove hchars inner => exact .found hnew hmove hchars inner
  | failed hnew hmove hchars inner _ _ ih => exact .failed hnew hmove hchars inner (ih hr)
  | fork hnew hmove _ ih =>
    have hlater := ih hr
    rw [List.append_assoc] at hlater
    exact .fork hnew hmove hlater

/-! ## Dead threads -/

/-- A thread that comes to no match before a text, if none of the given ones does. -/
structure DeadEnd (before : Option Char) (text : Text) (threads : List Thread) (t : Thread) : Prop where
  next : ∀ next, move ⟨before, text.head?⟩ t = .fork next → next ⊆ threads
  accept : move ⟨before, text.head?⟩ t ≠ .accept
  read : ∀ chars rest c later, move ⟨before, text.head?⟩ t = .read chars rest → text = c :: later →
    chars.contains c = true → Tries (some c) [] [rest] later none

theorem DeadEnd.of_fork {threads next : List Thread} {t : Thread}
    (hmove : move ⟨before, text.head?⟩ t = .fork next) (hsub : next ⊆ threads) :
    DeadEnd before text threads t where
  next next' hmove' := by
    rw [hmove] at hmove'
    cases hmove'
    exact hsub
  accept := by simp [hmove]
  read chars rest c later hmove' := by
    rw [hmove] at hmove'
    cases hmove'

theorem DeadEnd.of_read {threads : List Thread} {t rest : Thread} {chars : CharSet}
    (hmove : move ⟨before, text.head?⟩ t = .read chars rest)
    (hread : ∀ c later, text = c :: later → chars.contains c = true →
      Tries (some c) [] [rest] later none) : DeadEnd before text threads t where
  next next' hmove' := by
    rw [hmove] at hmove'
    cases hmove'
  accept := by simp [hmove]
  read chars' rest' c later hmove' := by
    rw [hmove] at hmove'
    cases hmove'
    exact hread c later

/-- One more thread is dead besides those that were not seen with it. -/
theorem DeadEnd.cons {all : List Thread} {t : Thread} (ht : DeadEnd before text all t)
    (hdead : ∀ u ∈ all, u ∉ t :: seen → DeadEnd before text all u) :
    ∀ u ∈ all, u ∉ seen → DeadEnd before text all u := by
  intro u hu hunew
  by_cases hut : u = t
  · rw [hut]
    exact ht
  · exact hdead u hu (by simp [hut, hunew])

/-- What a search that has failed has taken up is of no use, and may be taken as seen in a search that
goes on with other threads. -/
theorem Tries.exists_deadEnd (h : Tries before seen todo text none) :
    ∃ all, seen ⊆ all ∧ todo ⊆ all ∧ (∀ t ∈ all, t ∉ seen → DeadEnd before text all t) ∧
      ∀ more r, Tries before all more text r → Tries before seen (todo ++ more) text r := by
  generalize hr : none = r at h
  induction h with
  | @exhausted _ seen _ =>
    exact ⟨seen, List.Subset.refl _, by simp, fun t ht hnew => absurd ht hnew, fun more r h => h⟩
  | again hseen _ ih =>
    obtain ⟨all, hsub, htodo, hdead, hmore⟩ := ih hr
    exact ⟨all, hsub, List.cons_subset.2 ⟨hsub hseen, htodo⟩, hdead,
      fun more r h => .again hseen (hmore more r h)⟩
  | accept => cases hr
  | @stuck _ seen _ t _ _ _ _ hnew hmove hchars _ ih =>
    obtain ⟨all, hsub, htodo, hdead, hmore⟩ := ih hr
    obtain ⟨ht, hsub⟩ := List.cons_subset.1 hsub
    refine ⟨all, hsub, List.cons_subset.2 ⟨ht, htodo⟩, ?_,
      fun more r h => .stuck hnew hmove hchars (hmore more r h)⟩
    apply DeadEnd.cons _ hdead
    apply DeadEnd.of_read hmove
    rintro c later rfl hc
    rw [hchars c rfl] at hc
    cases hc
  | found => cases hr
  | @failed _ seen _ t _ _ _ _ _ hnew hmove hchars inner _ _ ih =>
    obtain ⟨all, hsub, htodo, hdead, hmore⟩ := ih hr
    obtain ⟨ht, hsub⟩ := List.cons_subset.1 hsub
    refine ⟨all, hsub, List.cons_subset.2 ⟨ht, htodo⟩, ?_,
      fun more r h => .failed hnew hmove hchars inner (hmore more r h)⟩
    apply DeadEnd.cons _ hdead
    apply DeadEnd.of_read hmove
    intro c later heq _
    cases heq
    exact inner
  | @fork _ seen _ threads t _ _ hnew hmove _ ih =>
    obtain ⟨all, hsub, htodo, hdead, hmore⟩ := ih hr
    obtain ⟨ht, hsub⟩ := List.cons_subset.1 hsub
    obtain ⟨hthreads, htodo⟩ := List.append_subset.1 htodo
    refine ⟨all, hsub, List.cons_subset.2 ⟨ht, htodo⟩, (DeadEnd.of_fork hmove hthreads).cons hdead, ?_⟩
    intro more r h
    have hlater := hmore more r h
    rw [List.append_assoc] at hlater
    exact .fork hnew hmove hlater

/-- A thread that is among the dead ones need not be seen besides. -/
theorem Tries.drop_seen {dead : List Thread} {t : Thread} (ht : t ∈ dead)
    (h : Tries before (dead ++ t :: seen) todo text r) : Tries before (dead ++ seen) todo text r := by
  apply h.congr_seen
  intro u
  simp only [List.mem_append, List.mem_cons]
  constructor
  · rintro (hu | hu)
    · exact .inl hu
    · exact .inr (.inr hu)
  · rintro (hu | rfl | hu)
    · exact .inl hu
    · exact .inl ht
    · exact .inr hu

theorem Tries.cons_seen {dead : List Thread} {t : Thread}
    (h : Tries before (dead ++ t :: seen) todo text r) :
    Tries before (t :: (dead ++ seen)) todo text r := by
  apply h.congr_seen
  intro u
  simp only [List.mem_append, List.mem_cons]
  exact or_left_comm

/-- Dead threads make no difference to a search. -/
theorem Tries.append_seen {dead : List Thread} (hdead : ∀ t ∈ dead, DeadEnd before text dead t)
    (h : Tries before seen todo text r) : Tries before (dead ++ seen) todo text r := by
  induction h with
  | exhausted => exact .exhausted
  | again hseen _ ih => exact .again (List.mem_append_right _ hseen) (ih hdead)
  | @accept _ seen _ t _ hnew hmove =>
    have ht : t ∉ dead := fun ht => (hdead t ht).accept hmove
    exact .accept (by simp [ht, hnew]) hmove
  | @stuck _ seen _ t _ _ _ _ hnew hmove hchars _ ih =>
    by_cases ht : t ∈ dead
    · exact .again (List.mem_append_left _ ht) ((ih hdead).drop_seen ht)
    · exact .stuck (by simp [ht, hnew]) hmove hchars (ih hdead).cons_seen
  | @found _ seen _ t _ _ _ _ _ hnew hmove hchars inner =>
    -- a dead thread would have failed where this one has come to a match
    have ht : t ∉ dead := by
      intro ht
      cases inner.unique ((hdead t ht).read _ _ _ _ hmove rfl hchars)
    exact .found (by simp [ht, hnew]) hmove hchars inner
  | @failed _ seen _ t _ _ _ _ _ hnew hmove hchars inner _ _ ih =>
    by_cases ht : t ∈ dead
    · exact .again (List.mem_append_left _ ht) ((ih hdead).drop_seen ht)
    · exact .failed (by simp [ht, hnew]) hmove hchars inner (ih hdead).cons_seen
  | @fork _ seen _ threads t _ _ hnew hmove _ ih =>
    by_cases ht : t ∈ dead
    · -- a dead thread goes on as dead threads
      have hthreads : threads ⊆ dead ++ t :: seen := fun u hu =>
        List.mem_append_left _ ((hdead t ht).next threads hmove hu)
      exact .again (List.mem_append_left _ ht) (((ih hdead).of_append hthreads).drop_seen ht)
    · exact .fork (by simp [ht, hnew]) hmove (ih hdead).cons_seen

/-! ## Lists of threads -/

/-- A search tries what is on the list first, and then goes on as if it began there. -/
theorem Tries.append {more : List Thread} {r r' : Option Nat} (h : Tries before [] todo text r)
    (h' : Tries before [] more text r') : Tries before [] (todo ++ more) text (r <|> r') := by
  cases r with
  | some n => exact h.append_of_some more
  | none =>
    obtain ⟨all, -, -, hdead, hmore⟩ := h.exists_deadEnd
    have hall := h'.append_seen fun t ht => hdead t ht List.not_mem_nil
    rw [List.append_nil] at hall
    exact hmore more r' hall

/-- A search comes to the first thing that one of its threads comes to alone. -/
theorem tries_findSome? {alone : Thread → Option Nat} {threads : List Thread}
    (h : ∀ t ∈ threads, Tries before [] [t] text (alone t)) :
    Tries before [] threads text (threads.findSome? alone) := by
  induction threads with
  | nil => exact .exhausted
  | cons t threads ih =>
    have hlater := ih fun u hu => h u (List.mem_cons_of_mem _ hu)
    have happend := (h t List.mem_cons_self).append hlater
    rw [List.findSome?_cons]
    cases hr : alone t with
    | some n => rwa [hr] at happend
    | none => rwa [hr] at happend

end Thicket.Pattern
