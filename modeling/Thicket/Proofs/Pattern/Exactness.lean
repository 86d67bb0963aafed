import Thicket.Matcher.Regular
import Thicket.Proofs.Pattern.Plain
import Thicket.Proofs.Pattern.Pursuit
import Thicket.Proofs.Text.Places

/-!
# What the search for a plain pattern finds

The answers of `Pattern.search` in terms of leftmost-first matches: a full match is the match at the
first place where it is not empty, and a begun match tells the first place where some text to follow
would make it so. For plain patterns this is exact (`search_exact`): nothing is held back in vain, and
nothing is given up that could still come to a match.
-/

namespace Thicket.Pattern

open Text

/-! ## Leftmost-first matches at a place -/

/-- Behind the text `u` the leftmost-first match of a pattern takes the first `n` characters of `v`. -/
def Prefers (p : Pattern) (u v : Text) (n : Nat) : Prop := Tries u.getLast? [] [[p]] v (some n)

/-- Behind the text `u` the leftmost-first match in `v` is not empty. -/
def MatchesAt (p : Pattern) (u v : Text) : Prop := ∃ n, p.Prefers u v (n + 1)

/-- Some text can follow with which the leftmost-first match is not empty. -/
def Completable (p : Pattern) (u v : Text) : Prop := ∃ s, s ≠ [] ∧ p.MatchesAt u (v ++ s)

theorem prefers_iff {p : Pattern} {u v : Text} {n : Nat} :
    p.Prefers u v n ↔ runLength? u.getLast? [[p]] v = some n := tries_iff

theorem Prefers.unique {p : Pattern} {u v : Text} {n m : Nat} (h : p.Prefers u v n)
    (h' : p.Prefers u v m) : n = m := by
  have := Tries.unique h h'
  simpa using this

theorem matchesAt_of_pos {p : Pattern} {u v : Text} {n : Nat}
    (h : runLength? u.getLast? [[p]] v = some n) (hn : 0 < n) : p.MatchesAt u v := by
  refine ⟨n - 1, prefers_iff.2 ?_⟩
  rw [h, Nat.sub_add_cancel hn]

/-- If the threads that are left after some text come to a match, then it takes this text. -/
theorem matchesAt_of_follow {p : Pattern} {u v w : Text} {n : Nat} (hv : v ≠ [])
    (h : runLength? (lastOf u.getLast? v) (follow u.getLast? [[p]] v) w = some n) :
    p.MatchesAt u (v ++ w) := by
  have hall : runLength? u.getLast? [[p]] (v ++ w) = some (v.length + n) := by
    rw [runLength?_append, h]
    rfl
  exact matchesAt_of_pos hall (Nat.add_pos_left (List.length_pos_iff.2 hv) n)

theorem not_matchesAt_nil (p : Pattern) (u : Text) : ¬ p.MatchesAt u [] := by
  rintro ⟨n, h⟩
  have := runLength?_le (prefers_iff.1 h)
  simp at this

/-! ## Prospects of plain threads -/

section Plain

variable {before : Option Char} {threads : List Thread}

/-- Plain threads that do not accept read some character. -/
theorem exists_after_ne_nil (h : ∀ t ∈ threads, PlainThread t) (hne : threads ≠ [])
    (hend : runLength? before threads [] = none) :
    ∃ c, (frontier ⟨before, some c⟩ threads).after c ≠ [] := by
  obtain ⟨text, n, hrun⟩ := exists_runLength?_plain h hne before
  cases text with
  | nil =>
    rw [hend] at hrun
    cases hrun
  | cons c text =>
    refine ⟨c, ?_⟩
    intro hnil
    rw [runLength?_cons, hnil, runLength?_no_thread] at hrun
    -- nothing is read, so the match that there is takes nothing
    obtain ⟨haccepts, -⟩ : (frontier ⟨before, some c⟩ threads).accepts = true ∧ 0 = n := by
      simpa using hrun
    rw [runLength?, frontier_plain h _ ⟨before, some c⟩, if_pos haccepts] at hend
    cases hend

/-- Plain threads that do not accept are led on by some byte. -/
theorem leadsOn_plain (h : ∀ t ∈ threads, PlainThread t)
    (hend : runLength? before threads [] = none) : leadsOn before threads = !threads.isEmpty := by
  by_cases hne : threads = []
  · subst hne
    simp
  obtain ⟨c, hc⟩ := exists_after_ne_nil h hne hend
  have haccepts : (frontier ⟨before, some c⟩ threads).accepts = false := by
    rw [frontier_plain h _ ⟨before, none⟩]
    simpa [runLength?] using hend
  have hascii : ∀ t ∈ threads, AllOf AsksAscii t := fun t ht p hp => not_asksUnicodeWords (h t ht p hp)
  rw [leadsOn_of_after hascii haccepts hc]
  simpa using hne

/-- The pursuit of plain threads to the end of a text tells whether any thread is left, if none of
these accepts. -/
theorem pursue_plain (h : ∀ t ∈ threads, PlainThread t) (accepted : Bool) {text : Text}
    (hne : text ≠ []) (hend : ∀ before', runLength? before' (follow before threads text) [] = none) :
    pursue false before threads accepted text = !(follow before threads text).isEmpty := by
  obtain ⟨text, c, rfl⟩ : ∃ front c, text = front ++ [c] :=
    ⟨_, _, (List.dropLast_concat_getLast hne).symm⟩
  rw [pursue_concat, leadsOn_plain (plain_follow h _) (hend _), ite_self]

end Plain

/-! ## Plain patterns at a place -/

section Place

variable {p : Pattern} {u v : Text}

/-- Where nothing matches, no thread accepts at the end of the text. -/
theorem not_accepts_of_not_matchesAt (h : p.Plain) (hv : v ≠ []) (hno : ¬ p.MatchesAt u v)
    (before : Option Char) : runLength? before (follow u.getLast? [[p]] v) [] = none := by
  rw [runLength?_plain (plain_follow (plainThread_start h) v) before (lastOf u.getLast? v)]
  cases hend : runLength? (lastOf u.getLast? v) (follow u.getLast? [[p]] v) [] with
  | none => rfl
  | some n =>
    have hmatch := matchesAt_of_follow hv hend
    rw [List.append_nil] at hmatch
    exact absurd hmatch hno

/-- If more text makes a match that there is not yet, then a thread is left. -/
theorem follow_ne_nil_of_matchesAt {s : Text} (hno : ¬ p.MatchesAt u v)
    (hmatch : p.MatchesAt u (v ++ s)) : follow u.getLast? [[p]] v ≠ [] := by
  intro hnil
  obtain ⟨n, hmatch⟩ := hmatch
  -- without a thread the match ends before the end of the text, and is there already
  have hall := runLength?_append u.getLast? [[p]] v s
  have hnow := runLength?_append u.getLast? [[p]] v []
  rw [prefers_iff.1 hmatch, hnil, runLength?_no_thread] at hall
  rw [List.append_nil, hnil, runLength?_no_thread, ← hall] at hnow
  exact hno ⟨n, prefers_iff.2 hnow⟩

/-- Where nothing matches, some text completes a match just if a thread is left. -/
theorem completable_iff (h : p.Plain) (hv : v ≠ []) (hno : ¬ p.MatchesAt u v) :
    p.Completable u v ↔ follow u.getLast? [[p]] v ≠ [] := by
  have hend := not_accepts_of_not_matchesAt h hv hno
  constructor
  · rintro ⟨s, -, hmatch⟩
    exact follow_ne_nil_of_matchesAt hno hmatch
  · intro hne
    obtain ⟨s, n, hrun⟩ :=
      exists_runLength?_plain (plain_follow (plainThread_start h) v) hne (lastOf u.getLast? v)
    have hs : s ≠ [] := by
      rintro rfl
      rw [hend] at hrun
      cases hrun
    exact ⟨s, hs, matchesAt_of_follow hv hrun⟩

/-- Where nothing matches, a match may grow just if some text completes one. -/
theorem mayGrow_iff (h : p.Plain) (hv : v ≠ []) (hno : ¬ p.MatchesAt u v) :
    p.mayGrow (placeAt u v) = true ↔ p.Completable u v := by
  unfold mayGrow placeAt
  rw [completable_iff h hv hno, not_asksUnicodeWords h]
  simp only [Bool.false_and, Bool.false_eq_true, ↓reduceIte]
  rw [pursue_plain (plainThread_start h) false hv (not_accepts_of_not_matchesAt h hv hno)]
  simp

end Place

/-! ## Searching -/

/-- The bytes of the preferred match at a place, if it is not empty. -/
def matchBytes? (p : Pattern) (place : Place) : Option (Nat × Nat) :=
  match p.matchLength? place with
  | none | some 0 => none
  | some n => some (place.offset, place.offset + byteSize (place.rest.take n))

theorem find?_eq (p : Pattern) (t : Text) : p.find? t = t.places.findSome? p.matchBytes? := rfl

theorem matchBytes?_of_prefers {p : Pattern} {u v : Text} {n : Nat} (h : p.Prefers u v (n + 1)) :
    p.matchBytes? (placeAt u v) = some (byteSize u, byteSize u + byteSize (v.take (n + 1))) := by
  have hlength : p.matchLength? (placeAt u v) = some (n + 1) := prefers_iff.1 h
  rw [matchBytes?, hlength]
  rfl

theorem matchBytes?_ne_none {p : Pattern} {u v : Text} :
    p.matchBytes? (placeAt u v) ≠ none ↔ p.MatchesAt u v := by
  constructor
  · intro h
    unfold matchBytes? at h
    split at h
    · exact absurd rfl h
    · exact absurd rfl h
    · next n hn hlength => exact matchesAt_of_pos hlength (Nat.pos_of_ne_zero hn)
  · rintro ⟨n, h⟩
    rw [matchBytes?_of_prefers h]
    exact Option.some_ne_none _

/-- A match is found at the first place where the preferred match is not empty, if there is one. -/
theorem find?_cases (p : Pattern) (t : Text) :
    (∃ u m v, FirstPlace p.MatchesAt t u (m ++ v) ∧ p.Prefers u (m ++ v) m.length ∧
      p.find? t = some (byteSize u, byteSize u + byteSize m)) ∨
    (∀ u v, t = u ++ v → ¬ p.MatchesAt u v) ∧ p.find? t = none := by
  rw [find?_eq]
  rcases findSome?_places p.matchBytes? t with ⟨u, v, hfirst, hfind⟩ | ⟨hnone, hfind⟩
  · simp only [matchBytes?_ne_none] at hfirst
    obtain ⟨n, hmatch⟩ := hfirst.holds
    have hlength : (v.take (n + 1)).length = n + 1 :=
      List.length_take_of_le (runLength?_le (prefers_iff.1 hmatch))
    refine .inl ⟨u, v.take (n + 1), v.drop (n + 1), ?_, ?_, ?_⟩
    · rw [List.take_append_drop]
      exact hfirst
    · rw [List.take_append_drop, hlength]
      exact hmatch
    · rw [hfind, matchBytes?_of_prefers hmatch]
  · refine .inr ⟨?_, hfind⟩
    intro u v ht hmatch
    by_cases hv : v = []
    · subst hv
      exact not_matchesAt_nil p u hmatch
    · exact matchBytes?_ne_none.2 hmatch (hnone u v ht hv)

/-- Where a plain pattern matches nowhere, it is begun at the first place where some text completes a
match, if there is one. -/
theorem find?_mayGrow_cases {p : Pattern} (h : p.Plain) {t : Text}
    (hno : ∀ u v, t = u ++ v → ¬ p.MatchesAt u v) :
    (∃ u v, FirstPlace p.Completable t u v ∧ t.places.find? p.mayGrow = some (placeAt u v)) ∨
    (∀ u v, t = u ++ v → v ≠ [] → ¬ p.Completable u v) ∧ t.places.find? p.mayGrow = none := by
  rcases find?_places p.mayGrow t with ⟨u, v, hfirst, hfind⟩ | ⟨hnone, hfind⟩
  · refine .inl ⟨u, v, hfirst.congr ?_, hfind⟩
    exact fun u v ht hv => mayGrow_iff h hv (hno u v ht)
  · refine .inr ⟨?_, hfind⟩
    intro u v ht hv hcompletable
    rw [← mayGrow_iff h hv (hno u v ht), hnone u v ht hv] at hcompletable
    cases hcompletable

/-- There is just one preferred match at the first place where it is not empty. -/
theorem Prefers.unique_first {p : Pattern} {t u m v u' m' v' : Text}
    (h : p.Prefers u (m ++ v) m.length) (hfirst : FirstPlace p.MatchesAt t u (m ++ v))
    (h' : p.Prefers u' (m' ++ v') m'.length) (hfirst' : FirstPlace p.MatchesAt t u' (m' ++ v')) :
    u = u' ∧ m = m' ∧ v = v' := by
  obtain ⟨rfl, heq⟩ := hfirst.unique hfirst'
  rw [← heq] at h'
  exact ⟨rfl, List.append_inj heq (h.unique h')⟩

theorem find?_eq_some_iff {p : Pattern} {t : Text} {start stop : Nat} :
    p.find? t = some (start, stop) ↔
      ∃ u m v, FirstPlace p.MatchesAt t u (m ++ v) ∧ p.Prefers u (m ++ v) m.length ∧
        start = byteSize u ∧ stop = byteSize u + byteSize m := by
  rcases find?_cases p t with ⟨u, m, v, hfirst, hmatch, hfind⟩ | ⟨hno, hfind⟩
  · rw [hfind]
    constructor
    · intro heq
      cases heq
      exact ⟨u, m, v, hfirst, hmatch, rfl, rfl⟩
    · rintro ⟨u', m', v', hfirst', hmatch', rfl, rfl⟩
      obtain ⟨rfl, rfl, -⟩ := hmatch.unique_first hfirst hmatch' hfirst'
      rfl
  · rw [hfind]
    constructor
    · intro heq
      cases heq
    · rintro ⟨u, m, v, hfirst, -⟩
      exact absurd hfirst.holds (hno u _ hfirst.split)

theorem find?_eq_none_iff {p : Pattern} {t : Text} :
    p.find? t = none ↔ ∀ u v, t = u ++ v → ¬ p.MatchesAt u v := by
  rcases find?_cases p t with ⟨u, m, v, hfirst, -, hfind⟩ | ⟨hno, hfind⟩
  · rw [hfind]
    exact iff_of_false (by simp) fun hno => hno u _ hfirst.split hfirst.holds
  · exact iff_of_true hfind hno

theorem search_eq_full_iff {p : Pattern} {t : Text} {start stop : Nat} :
    p.search t = some (.full start stop) ↔ p.find? t = some (start, stop) := by
  unfold search
  cases p.find? t with
  | none => simp
  | some range => simp [Prod.ext_iff]

theorem search_eq_begun_iff {p : Pattern} (h : p.Plain) {t : Text} {start : Nat} :
    p.search t = some (.begun start) ↔ (∀ u v, t = u ++ v → ¬ p.MatchesAt u v) ∧
      ∃ u v, FirstPlace p.Completable t u v ∧ start = byteSize u := by
  unfold search
  rw [← find?_eq_none_iff]
  cases hfind : p.find? t with
  | some range => simp
  | none =>
    rw [eq_self, true_and]
    rcases find?_mayGrow_cases h (find?_eq_none_iff.1 hfind) with
      ⟨u, v, hfirst, hgrow⟩ | ⟨hnever, hgrow⟩
    · rw [hgrow]
      constructor
      · intro heq
        cases heq
        exact ⟨u, v, hfirst, rfl⟩
      · rintro ⟨u', v', hfirst', rfl⟩
        rw [(hfirst.unique hfirst').1]
        rfl
    · rw [hgrow]
      constructor
      · intro heq
        cases heq
      · rintro ⟨u, v, hfirst, -⟩
        exact absurd hfirst.holds (hnever u v hfirst.split hfirst.inside)

theorem search_eq_none_iff {p : Pattern} (h : p.Plain) {t : Text} :
    p.search t = none ↔ (∀ u v, t = u ++ v → ¬ p.MatchesAt u v) ∧
      ∀ u v, t = u ++ v → v ≠ [] → ¬ p.Completable u v := by
  unfold search
  rw [← find?_eq_none_iff]
  cases hfind : p.find? t with
  | some range => simp
  | none =>
    rw [eq_self, true_and]
    rcases find?_mayGrow_cases h (find?_eq_none_iff.1 hfind) with
      ⟨u, v, hfirst, hgrow⟩ | ⟨hnever, hgrow⟩
    · rw [hgrow]
      exact iff_of_false (by simp) fun hnever =>
        hnever u v hfirst.split hfirst.inside hfirst.holds
    · rw [hgrow]
      exact iff_of_true rfl hnever

/-- A search for a plain pattern is exact. It answers with the first place where the leftmost-first
match is not empty, and with that match. If there is none, it answers with the first place where some
text to follow would complete such a match, and with nothing if there is none of these either. -/
theorem search_exact {p : Pattern} (h : p.Plain) (t : Text) :
    (∀ start stop, p.search t = some (.full start stop) ↔
      ∃ u m v, FirstPlace p.MatchesAt t u (m ++ v) ∧ p.Prefers u (m ++ v) m.length ∧
        start = byteSize u ∧ stop = byteSize u + byteSize m) ∧
    (∀ start, p.search t = some (.begun start) ↔
      (∀ u v, t = u ++ v → ¬ p.MatchesAt u v) ∧
        ∃ u v, FirstPlace p.Completable t u v ∧ start = byteSize u) ∧
    (p.search t = none ↔
      (∀ u v, t = u ++ v → ¬ p.MatchesAt u v) ∧
        ∀ u v, t = u ++ v → v ≠ [] → ¬ p.Completable u v) := by
  refine ⟨?_, ?_, ?_⟩
  · intro start stop
    exact search_eq_full_iff.trans find?_eq_some_iff
  · intro start
    exact search_eq_begun_iff h
  · exact search_eq_none_iff h

/-- Of the pattern `ab|[0-9]+?c`, the text `xab` has a match, and the text `xy12` the beginning of
one. -/
theorem search_exact_choice :
    let p := Pattern.alt (.literal ['a', 'b'])
      (.seq (.rounds (.set .unicode (.range '0' '9')) 1 none false) (.literal ['c']))
    p.Plain ∧
      (∃ u m v, FirstPlace p.MatchesAt ['x', 'a', 'b'] u (m ++ v) ∧
        p.Prefers u (m ++ v) m.length ∧ 1 = byteSize u ∧ 3 = byteSize u + byteSize m) ∧
      ∃ u v, FirstPlace p.Completable ['x', 'y', '1', '2'] u v ∧ 2 = byteSize u := by
  intro p
  have h : p.Plain := ⟨trivial, ⟨'0', by decide⟩, trivial⟩
  refine ⟨h, ?_, ?_⟩
  · exact ((search_exact h ['x', 'a', 'b']).1 1 3).1 (by decide +kernel)
  · exact (((search_exact h ['x', 'y', '1', '2']).2.1 2).1 (by decide +kernel)).2

end Thicket.Pattern
