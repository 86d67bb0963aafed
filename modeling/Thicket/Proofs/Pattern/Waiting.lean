import Thicket.Pattern.Reader
import Thicket.Proofs.Pattern.Exactness

/-!
# Waiting for the rest of a match

A pattern may assert something about its place. Then a begun match cannot be told from the threads alone,
since what comes next is not known at the end of the text. Even so, hardly any match that more text would
complete is given up (`begun_of_completed`): a search that finds no match reports one begun there or
before. The exception is a single last character at which the empty match stands, and past which every
further character leads to another acceptance or to nothing (`Overlooks`). There the text that would have
been a match is lost (`optional_boundary_overlooked`).
-/

namespace Thicket.Pattern

open Text

/-- Behind the text `u` the pattern matches nothing of a last character `c` of one byte, and every
character that comes next leads to no thread or shows an acceptance before it. -/
structure Overlooks (p : Pattern) (u : Text) (c : Char) : Prop where
  single : isSingleByte c = true
  empty : p.Prefers u [c] 0
  blocked : ∀ d, follow u.getLast? [[p]] [c, d] = [] ∨ accepted? u.getLast? [[p]] [c, d] = some 1

variable {p : Pattern} {u v s : Text}

/-- An acceptance before the last character, where nothing matches, is one before the only character. -/
theorem eq_nil_of_accepts {front : Text} {c : Char} (hno : ¬ p.MatchesAt u (front ++ [c]))
    (haccepts : (frontier ⟨lastOf u.getLast? front, some c⟩
      (follow u.getLast? [[p]] front)).accepts = true) : front = [] ∧ p.Prefers u [c] 0 := by
  have hlast := accepted?_concat u.getLast? [[p]] front c
  rw [if_pos haccepts] at hlast
  have hrun := runLength?_append u.getLast? [[p]] (front ++ [c]) []
  rw [List.append_nil, hlast] at hrun
  cases hend : runLength? (lastOf u.getLast? (front ++ [c]))
      (follow u.getLast? [[p]] (front ++ [c])) [] with
  | some n =>
    have hwhole := matchesAt_of_follow (List.concat_ne_nil c front) hend
    rw [List.append_nil] at hwhole
    exact absurd hwhole hno
  | none =>
    rw [hend] at hrun
    by_cases hfront : front = []
    · subst hfront
      exact ⟨rfl, prefers_iff.2 hrun⟩
    · exact absurd (matchesAt_of_pos hrun (List.length_pos_iff.2 hfront)) hno

/-- A place where more text would complete a match may grow, unless it is overlooked. -/
theorem mayGrow_of_completed (hascii : p.asksUnicodeWords = false) (hv : v ≠ [])
    (hno : ¬ p.MatchesAt u v) (hmatch : p.MatchesAt u (v ++ s))
    (hseen : ∀ c, v = [c] → ¬ p.Overlooks u c) : p.mayGrow (placeAt u v) = true := by
  have hleft := follow_ne_nil_of_matchesAt hno hmatch
  obtain ⟨front, c, rfl⟩ : ∃ front c, v = front ++ [c] :=
    ⟨_, _, (List.dropLast_concat_getLast hv).symm⟩
  unfold mayGrow placeAt
  rw [hascii]
  simp only [Bool.false_and, Bool.false_eq_true, ↓reduceIte]
  rw [pursue_concat]
  split
  · next haccepts =>
    rw [Bool.and_eq_true] at haccepts
    obtain ⟨rfl, hempty⟩ := eq_nil_of_accepts hno haccepts.1
    -- the place is not overlooked, so some character leads past the acceptance
    obtain ⟨d, hd⟩ : ∃ d, ¬ (follow u.getLast? [[p]] [c, d] = [] ∨
        accepted? u.getLast? [[p]] [c, d] = some 1) :=
      Classical.not_forall.1 fun hblocked => hseen c rfl ⟨haccepts.2, hempty, hblocked⟩
    obtain ⟨hafter, haccepted⟩ := not_or.1 hd
    have hlater : (frontier ⟨some c, some d⟩ (follow u.getLast? [[p]] [c])).accepts = false := by
      rw [← Bool.not_eq_true]
      intro h
      exact haccepted ((accepted?_concat u.getLast? [[p]] [c] d).trans (if_pos h))
    refine leadsOn_of_after (c := d) ?_ hlater hafter
    exact inherited_asksAscii.of_mem_follow (allOf_start hascii) _
  · simpa using hleft

/-- A match that more text would complete is waited for. If a search finds no match in a text, and one
that is not empty begins in the text when more follows, then the search reports a match begun at that
place or before, unless the place is overlooked. -/
theorem begun_of_completed {t : Text} (hascii : p.asksUnicodeWords = false)
    (hno : ∀ u v, t = u ++ v → ¬ p.MatchesAt u v) (ht : t = u ++ v) (hv : v ≠ [])
    (hmatch : p.MatchesAt u (v ++ s)) (hseen : ∀ c, v = [c] → ¬ p.Overlooks u c) :
    ∃ u', u' <+: u ∧ p.search t = some (.begun (byteSize u')) := by
  have hgrow := mayGrow_of_completed hascii hv (hno u v ht) hmatch hseen
  unfold search
  rw [find?_eq_none_iff.2 hno]
  rcases find?_places p.mayGrow t with ⟨u', v', hfirst, hfind⟩ | ⟨hnone, -⟩
  · refine ⟨u', ?_, by rw [hfind]; rfl⟩
    have hle : u'.length ≤ u.length :=
      Nat.le_of_not_lt fun hlt => hfirst.first u v ht hlt hgrow
    exact List.prefix_of_prefix_length_le (hfirst.split ▸ List.prefix_append u' v')
      (ht ▸ List.prefix_append u v) hle
  · rw [hnone u v ht hv] at hgrow
    cases hgrow

/-- Of the written pattern `(?:-(?-u:\b)x)?` the text `a-` is waited for at the dash, since `-x` would be
a match. An acceptance stands before the dash there, but an `x` leads past it. -/
theorem begun_of_completed_optional :
    let p := Pattern.rounds (.seq (.literal ['-']) (.seq (.assert (.word .ascii .boundary))
      (.literal ['x']))) 0 (some 1) true
    ofText? "(?:-(?-u:\\b)x)?".toList = some p ∧ p.asksUnicodeWords = false ∧
      (∀ u v, ['a', '-'] = u ++ v → ¬ p.MatchesAt u v) ∧ p.MatchesAt ['a'] (['-'] ++ ['x']) ∧
      ∃ u', u' <+: ['a'] ∧ p.search ['a', '-'] = some (.begun (byteSize u')) := by
  intro p
  have hno : ∀ u v, ['a', '-'] = u ++ v → ¬ p.MatchesAt u v :=
    find?_eq_none_iff.1 (by decide +kernel)
  have hmatch : p.MatchesAt ['a'] (['-'] ++ ['x']) := ⟨1, prefers_iff.2 (by decide +kernel)⟩
  refine ⟨by decide +kernel, rfl, hno, hmatch, ?_⟩
  refine begun_of_completed rfl hno rfl (List.cons_ne_nil '-' []) hmatch ?_
  intro c hc hoverlooks
  obtain rfl : '-' = c := List.cons.inj hc |>.1
  rcases hoverlooks.blocked 'x' with hnil | haccepted
  · exact absurd hnil (by decide +kernel)
  · exact absurd haccepted (by decide +kernel)

/-- Of the written pattern `(?:-(?-u:\b))?` the text `-` is given up, although `-x` would be a match: any
character that comes next leads to nothing or shows the acceptance before it. -/
theorem optional_boundary_overlooked :
    let p := Pattern.rounds (.seq (.literal ['-']) (.assert (.word .ascii .boundary))) 0 (some 1) true
    ofText? "(?:-(?-u:\\b))?".toList = some p ∧ p.asksUnicodeWords = false ∧
      (∀ u v, ['-'] = u ++ v → ¬ p.MatchesAt u v) ∧ p.MatchesAt [] (['-'] ++ ['x']) ∧
      p.search ['-'] = none := by
  intro p
  refine ⟨by decide +kernel, rfl, find?_eq_none_iff.1 (by decide +kernel), ?_, by decide +kernel⟩
  exact ⟨0, prefers_iff.2 (by decide +kernel)⟩

end Thicket.Pattern
