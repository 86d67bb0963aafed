import Thicket.Proofs.Pattern.Exactness
import Thicket.Proofs.Tokenizer.Intake
import Thicket.Proofs.Tokenizer.Refill

/-!
# Plain patterns and refills

A tokenizer whose rules are plain patterns makes of a text what the patterns make of the whole of it
(`ruleTokens`), however the text is spread over pulls, if what a pattern finds in a part of the text
stays what it finds when more of the text arrives (`Pattern.FinalIn`). A match that ends where the buffer
ends is taken as it is, so a pattern whose match could have gone on is cut at a pull.
-/

namespace Thicket

namespace Pattern

open Text

variable {p : Pattern} {u v : Text} {n : Nat}

/-! ## Matches of plain patterns in more text -/

/-- What a plain pattern matches does not depend on what stands before. -/
theorem prefers_plain (h : p.Plain) (u u' : Text) : p.Prefers u v n ↔ p.Prefers u' v n := by
  rw [prefers_iff, prefers_iff, runLength?_plain (plainThread_start h) u.getLast? u'.getLast?]

theorem matchesAt_plain (h : p.Plain) (u u' : Text) : p.MatchesAt u v ↔ p.MatchesAt u' v := by
  unfold MatchesAt
  simp only [prefers_plain h u u']

/-- Where a plain pattern matches something, it matches something if more text follows. -/
theorem MatchesAt.append (h : p.Plain) (hmatch : p.MatchesAt u v) (w : Text) :
    p.MatchesAt u (v ++ w) := by
  have hv : v ≠ [] := by
    rintro rfl
    exact not_matchesAt_nil p u hmatch
  obtain ⟨n, hprefers⟩ := hmatch
  have hnow := runLength?_append u.getLast? [[p]] v []
  have hall := runLength?_append u.getLast? [[p]] v w
  rw [List.append_nil, prefers_iff.1 hprefers] at hnow
  cases hlater : runLength? (lastOf u.getLast? v) (follow u.getLast? [[p]] v) w with
  | some k => exact matchesAt_of_follow hv hlater
  | none =>
    have hend : runLength? (lastOf u.getLast? v) (follow u.getLast? [[p]] v) [] = none := by
      by_contra hne
      obtain ⟨k, hk⟩ := Option.ne_none_iff_exists'.1 hne
      exact runLength?_ne_none_of_accepts (plain_follow (plainThread_start h) v) hk w hlater
    rw [hend] at hnow
    rw [hlater, ← hnow] at hall
    exact ⟨n, prefers_iff.2 hall⟩

/-- What the pattern finds in a part of a text stays what it finds, whatever part of the text
follows. -/
def FinalIn (p : Pattern) (text : Text) : Prop :=
  ∀ t w start stop, t ++ w <:+: text → p.search t = some (.full start stop) →
    p.search (t ++ w) = some (.full start stop)

/-- It is enough to search the parts of the text. -/
theorem finalIn_iff {text : Text} :
    p.FinalIn text ↔ ∀ suffix ∈ text.tails, ∀ part ∈ suffix.inits, ∀ t ∈ part.inits,
      (p.search t).all (fun found => p.search part = some found ∨ found matches .begun _) = true := by
  constructor
  · intro h s hs part hpart t ht
    obtain ⟨w, rfl⟩ := (List.mem_inits t part).1 ht
    rw [List.mem_inits] at hpart
    rw [List.mem_tails] at hs
    cases hsearch : p.search t with
    | none => rfl
    | some found =>
      cases found with
      | begun start => simp
      | full start stop =>
        simp [h t w start stop (hpart.isInfix.trans hs.isInfix) hsearch]
  · intro h t w start stop hinfix hsearch
    obtain ⟨s, hpart, hs⟩ := List.infix_iff_prefix_suffix.1 hinfix
    have := h s ((List.mem_tails s text).2 hs) (t ++ w) ((List.mem_inits _ s).2 hpart) t
      ((List.mem_inits t _).2 (List.prefix_append t w))
    simpa [hsearch] using this

instance (p : Pattern) (text : Text) : Decidable (p.FinalIn text) :=
  decidable_of_iff _ finalIn_iff.symm

end Pattern

/-! ## Patterns as rules -/

/-- The rule of a pattern. -/
def Rule.pattern (e : Pattern × SymbolId) : Rule := ⟨.pattern e.1, e.2⟩

namespace Rule

open Pattern Text

variable {e : Pattern × SymbolId} {t : Text}

/-- A preferred match at the first place where it is not empty is not empty. -/
theorem part_ne_nil {u m v : Text} (hfirst : FirstPlace e.1.MatchesAt t u (m ++ v))
    (hmatch : e.1.Prefers u (m ++ v) m.length) : m ≠ [] := by
  obtain ⟨n, hn⟩ := hfirst.holds
  apply List.ne_nil_of_length_pos
  rw [hmatch.unique hn]
  exact Nat.succ_pos n

theorem cut?_pattern_of_full {start stop : Nat} (h : e.1.search t = some (.full start stop)) :
    ∃ u m v, ∃ hm : m ≠ [], FirstPlace e.1.MatchesAt t u (m ++ v) ∧
      e.1.Prefers u (m ++ v) m.length ∧ start = byteSize u ∧ stop = byteSize u + byteSize m ∧
      (pattern e).cut? t = some ⟨u, m, v, hm⟩ := by
  have hsearch : (pattern e).matcher.search t = some (.full start stop) := h
  obtain ⟨u, m, v, hfirst, hmatch, hstart, hstop⟩ := find?_eq_some_iff.1 (search_eq_full_iff.1 h)
  have hm := part_ne_nil hfirst hmatch
  refine ⟨u, m, v, hm, hfirst, hmatch, hstart, hstop, ?_⟩
  unfold cut?
  rw [hsearch]
  show t.cut? start stop = _
  rw [hfirst.split, hstart, hstop, cut?_byteSize hm]

/-- The rule of a pattern finds the preferred match at the first place where it is not empty. -/
theorem cut?_pattern_eq_some_iff {c : Cut} :
    (pattern e).cut? t = some c ↔ FirstPlace e.1.MatchesAt t c.before (c.part ++ c.after) ∧
      e.1.Prefers c.before (c.part ++ c.after) c.part.length := by
  constructor
  · intro h
    obtain ⟨start, stop, hsearch, -⟩ := search_of_cut? h
    obtain ⟨u, m, v, hm, hfirst, hmatch, -, -, hcut⟩ := cut?_pattern_of_full hsearch
    rw [h] at hcut
    cases hcut
    exact ⟨hfirst, hmatch⟩
  · rintro ⟨hfirst, hmatch⟩
    have hfind := find?_eq_some_iff.2 ⟨_, _, _, hfirst, hmatch, rfl, rfl⟩
    obtain ⟨u, m, v, hm, hfirst', hmatch', -, -, hcut⟩ :=
      cut?_pattern_of_full (search_eq_full_iff.2 hfind)
    obtain ⟨before, part, after, hpart⟩ := c
    obtain ⟨rfl, rfl, rfl⟩ := hmatch.unique_first hfirst hmatch' hfirst'
    exact hcut

theorem cut?_pattern_eq_none_iff :
    (pattern e).cut? t = none ↔ ∀ u v, t = u ++ v → ¬ e.1.MatchesAt u v := by
  rw [← find?_eq_none_iff]
  constructor
  · intro h
    cases hfind : e.1.find? t with
    | none => rfl
    | some range =>
      obtain ⟨u, m, v, hm, -, -, -, -, hcut⟩ := cut?_pattern_of_full (search_eq_full_iff.2 hfind)
      rw [h] at hcut
      cases hcut
  · intro h
    cases hcut : (pattern e).cut? t with
    | none => rfl
    | some c =>
      obtain ⟨start, stop, hsearch, -⟩ := search_of_cut? hcut
      have hfind := search_eq_full_iff.1 hsearch
      rw [h] at hfind
      cases hfind

/-! ## Plain patterns as rules -/

section Plain

variable (h : e.1.Plain)
include h

/-- The rule of a plain pattern skips a text in which no match begins. -/
theorem clear_pattern {u w : Text} (hno : ∀ a b, u = a ++ b → b ≠ [] → ¬ e.1.MatchesAt a (b ++ w)) :
    (pattern e).Clear u w := by
  rintro a v b w' rfl ⟨more, hw⟩
  -- no match begins in `v` if `w'` follows, since none does if more follows
  have hv : ∀ x y, v = x ++ y → y ≠ [] → ¬ e.1.MatchesAt x (y ++ w') := by
    intro x y hxy hy hmatch
    have hmore := (matchesAt_plain h x (a ++ x)).1 (hmatch.append h more)
    apply hno (a ++ x) (y ++ b)
    · rw [hxy]
      simp only [List.append_assoc]
    · simp [hy]
    · rw [List.append_assoc] at hmore ⊢
      rwa [← hw]
  have hsplit : ∀ x y, v ++ w' = x ++ y → e.1.MatchesAt x y →
      ∃ a', x = v ++ a' ∧ w' = a' ++ y ∧ e.1.MatchesAt a' y := by
    intro x y hxy hmatch
    rcases List.append_eq_append_iff.1 hxy with ⟨a', hx, hw'⟩ | ⟨b', hv', hy⟩
    · exact ⟨a', hx, hw', (matchesAt_plain h _ _).1 hmatch⟩
    · by_cases hb' : b' = []
      · subst hb'
        rw [List.append_nil] at hv'
        rw [List.nil_append] at hy
        exact ⟨[], by rw [hv', List.append_nil], hy.symm, (matchesAt_plain h _ _).1 hmatch⟩
      · rw [hy] at hmatch
        exact absurd hmatch (hv x b' hv' hb')
  unfold Skips
  cases hcut : (pattern e).cut? w' with
  | none =>
    rw [cut?_pattern_eq_none_iff] at hcut
    show (pattern e).cut? (v ++ w') = none
    rw [cut?_pattern_eq_none_iff]
    intro x y hxy hmatch
    obtain ⟨a', -, hw', hmatch'⟩ := hsplit x y hxy hmatch
    exact hcut a' y hw' hmatch'
  | some c =>
    obtain ⟨hfirst, hmatch⟩ := cut?_pattern_eq_some_iff.1 hcut
    show (pattern e).cut? (v ++ w') = some (c.prepend v)
    rw [cut?_pattern_eq_some_iff]
    refine ⟨⟨?_, hfirst.inside, (matchesAt_plain h _ _).1 hfirst.holds, ?_⟩, (prefers_plain h _ _).1 hmatch⟩
    · show v ++ w' = (v ++ c.before) ++ (c.part ++ c.after)
      rw [List.append_assoc, ← hfirst.split]
    · intro x y hxy hlt hmatch'
      obtain ⟨a', rfl, hw', hmatch''⟩ := hsplit x y hxy hmatch'
      have hlt' : a'.length < c.before.length := by
        simpa [Cut.prepend] using hlt
      exact hfirst.first a' y hw' hlt' hmatch''

theorem coherent_pattern : (pattern e).Coherent where
  clear_of_no_answer t hanswer w := by
    have hsearch : e.1.search t = none := by
      apply search_of_no_answer hanswer
      intro start stop hfull hnone
      obtain ⟨u, m, v, hm, -, -, -, -, hcut⟩ := cut?_pattern_of_full hfull
      rw [hnone] at hcut
      cases hcut
    obtain ⟨hno, hnever⟩ := (search_eq_none_iff h).1 hsearch
    apply clear_pattern h
    intro a b ht hb hmatch
    by_cases hw : w = []
    · rw [hw, List.append_nil] at hmatch
      exact hno a b ht hmatch
    · exact hnever a b ht hb ⟨w, hw, hmatch⟩
  clear_of_no_cut t hcut := by
    apply clear_pattern h
    intro a b ht _ hmatch
    rw [List.append_nil] at hmatch
    exact cut?_pattern_eq_none_iff.1 hcut a b ht hmatch
  leftmost t c hcut := by
    obtain ⟨hfirst, -⟩ := cut?_pattern_eq_some_iff.1 hcut
    rw [cut?_pattern_eq_none_iff]
    intro u v hbefore hmatch
    have hv : v ≠ [] := by
      rintro rfl
      exact not_matchesAt_nil e.1 u hmatch
    -- a match before the first one would be one of the whole text
    apply hfirst.first u (v ++ (c.part ++ c.after))
    · rw [hfirst.split, hbefore, List.append_assoc]
    · have := List.length_pos_iff.2 hv
      rw [hbefore, List.length_append]
      omega
    · exact hmatch.append h _

end Plain

/-- A pattern whose matches stay where they are in a text is a rule whose tokens do. -/
theorem finalIn_pattern {text : Text} (hfinal : e.1.FinalIn text) : (pattern e).FinalIn text := by
  intro t w c hinfix hcut
  obtain ⟨start, stop, hsearch, -⟩ := search_of_cut? hcut
  obtain ⟨u, m, v, hm, hfirst, -, rfl, rfl, hcut'⟩ := cut?_pattern_of_full hsearch
  rw [hcut] at hcut'
  cases hcut'
  have hlater : (pattern e).matcher.search (t ++ w) = _ := hfinal t w _ _ hinfix hsearch
  unfold cut?
  rw [hlater]
  show Text.cut? (byteSize u) (byteSize u + byteSize m) (t ++ w) = _
  rw [hfirst.split, List.append_assoc, List.append_assoc, cut?_byteSize hm]
  rfl

end Rule

namespace Tokenizer

theorem refillable_patterns {patterns : List (Pattern × SymbolId)} {text : Text}
    (hplain : ∀ e ∈ patterns, e.1.Plain) (hfinal : ∀ e ∈ patterns, e.1.FinalIn text) :
    Refillable (patterns.map Rule.pattern) text where
  coherent r hr := by
    obtain ⟨e, he, rfl⟩ := List.mem_map.1 hr
    exact Rule.coherent_pattern (hplain e he)
  final r hr := by
    obtain ⟨e, he, rfl⟩ := List.mem_map.1 hr
    exact Rule.finalIn_pattern (hfinal e he)

/-! ## Runs over a text -/

/-- A tokenizer with patterns as its rules that is bound to a text. -/
def overText (sizes : BufferSizes) (patterns : List (Pattern × SymbolId)) (text : Text) :
    Tokenizer CharSource :=
  { sizes, rules := patterns.map Rule.pattern, source := some ⟨text⟩ }

variable {patterns : List (Pattern × SymbolId)} {text : Text}

/-- A run over a text that succeeds queues tokens of the text, and the others will come of what is
pending. -/
theorem tokens_overText (hplain : ∀ e ∈ patterns, e.1.Plain)
    (hfinal : ∀ e ∈ patterns, e.1.FinalIn text) {sizes : BufferSizes} {n : Nat}
    (hok : (overText sizes patterns text).run.outcome = .ok n) :
    (overText sizes patterns text).run.tokenizer.queue ++
        ruleTokens (patterns.map Rule.pattern) (overText sizes patterns text).run.tokenizer.buffer =
      ruleTokens (patterns.map Rule.pattern) text := by
  have hrun : Runs (overText sizes patterns text) (overText sizes patterns text).run := runs_iff.2 rfl
  have hqueue := hrun.emits.queue
  have hrules := refillable_patterns hplain hfinal
  generalize (overText sizes patterns text).run = r at hok hrun hqueue ⊢
  rw [hqueue]
  cases hrun with
  | idle hnone =>
    have hnil : patterns.map Rule.pattern = [] := hnone
    rw [hnil, ruleTokens_no_rule, ruleTokens_no_rule]
    rfl
  | unbound => cases hok
  | drains _ hsource hdrains =>
    cases hsource
    have hintake := (hdrains.intake_eq (CharSource.handsOut ⟨text⟩) hok).1
    have hinfix : (overText sizes patterns text).buffer ++ (r.intake ++ []) <:+: text := by
      rw [hintake, List.append_nil]
      exact List.infix_refl text
    have htokens := hdrains.tokens hrules hok hinfix
    rw [hintake, List.append_nil, List.append_nil] at htokens
    exact htokens

/-- Where pull boundaries fall does not change how plain patterns cut a text, if what they find in a part
of it stays what they find when more of it arrives: a run that succeeds queues the tokens of the whole
text but for those of what is pending, so two runs that leave nothing pending queue the same tokens,
whatever their sizes are. -/
theorem tokens_independent_of_sizes (hplain : ∀ e ∈ patterns, e.1.Plain)
    (hfinal : ∀ e ∈ patterns, e.1.FinalIn text) {sizes : BufferSizes} {n : Nat}
    (hok : (overText sizes patterns text).run.outcome = .ok n) :
    (overText sizes patterns text).run.tokenizer.queue ++
        ruleTokens (patterns.map Rule.pattern) (overText sizes patterns text).run.tokenizer.buffer =
      ruleTokens (patterns.map Rule.pattern) text ∧
    ∀ (sizes' : BufferSizes) (n' : Nat), (overText sizes' patterns text).run.outcome = .ok n' →
      (overText sizes patterns text).run.tokenizer.buffer = [] →
      (overText sizes' patterns text).run.tokenizer.buffer = [] →
      (overText sizes' patterns text).run.tokenizer.queue =
        (overText sizes patterns text).run.tokenizer.queue := by
  have htokens := tokens_overText hplain hfinal hok
  refine ⟨htokens, ?_⟩
  intro sizes' n' hok' hbuffer hbuffer'
  have htokens' := tokens_overText hplain hfinal hok'
  rw [hbuffer, ruleTokens_nil, List.append_nil] at htokens
  rw [hbuffer', ruleTokens_nil, List.append_nil] at htokens'
  rw [htokens, htokens']

/-- Numbers of two digits and comments between angle brackets come to the same tokens character by
character and in pulls of three. -/
theorem tokens_independent_of_sizes_digits :
    let digit : Pattern := .set .unicode (.range '0' '9')
    let patterns := [(.rounds digit 2 (some 2) true, 1),
      (.seq (.literal ['<']) (.seq (.rounds (.set .unicode (.complement (.single '>'))) 0 none true)
        (.literal ['>'])), 2)]
    let run (sizes : BufferSizes) := (overText sizes patterns "1<2>34".toList).run
    (run ⟨200, 1, by decide, by decide⟩).tokenizer.queue = [⟨2, "<2>".toList⟩, ⟨1, "34".toList⟩] ∧
      (run ⟨4, 3, by decide, by decide⟩).tokenizer.queue =
        (run ⟨200, 1, by decide, by decide⟩).tokenizer.queue := by
  intro digit patterns run
  have hdigit : digit.Plain := ⟨'0', by decide⟩
  have hplain : ∀ e ∈ patterns, e.1.Plain := by
    intro e he
    rcases List.mem_cons.1 he with rfl | he
    · exact hdigit
    · rw [List.mem_singleton.1 he]
      exact ⟨trivial, ⟨'x', by decide⟩, trivial⟩
  have hfinal : ∀ e ∈ patterns, e.1.FinalIn "1<2>34".toList := by decide +kernel
  have hfine : (run ⟨200, 1, by decide, by decide⟩).outcome.isOk = true := by decide +kernel
  have hcoarse : (run ⟨4, 3, by decide, by decide⟩).outcome.isOk = true := by decide +kernel
  obtain ⟨n, hn⟩ := Run.exists_outcome hfine
  obtain ⟨n', hn'⟩ := Run.exists_outcome hcoarse
  refine ⟨by decide +kernel, ?_⟩
  exact (tokens_independent_of_sizes hplain hfinal hn).2 _ n' hn' (by decide +kernel)
    (by decide +kernel)

/-- A word that is still coming in when the buffer ends is cut there: in pulls of two characters `abc`
comes to two words, and at once it comes to one. -/
theorem tokens_differ_of_growing_word :
    let word : Pattern := .rounds (.set .unicode (.range 'a' 'z')) 1 none true
    let run (sizes : BufferSizes) := (overText sizes [(word, 1)] ['a', 'b', 'c']).run
    word.Plain ∧
      (run {}).outcome.toOption = some 1 ∧ (run {}).tokenizer.buffer = [] ∧
      (run ⟨200, 2, by decide, by decide⟩).outcome.toOption = some 2 ∧
      (run ⟨200, 2, by decide, by decide⟩).tokenizer.buffer = [] ∧
      (run {}).tokenizer.queue = [⟨1, ['a', 'b', 'c']⟩] ∧
      (run ⟨200, 2, by decide, by decide⟩).tokenizer.queue = [⟨1, ['a', 'b']⟩, ⟨1, ['c']⟩] := by
  refine ⟨⟨'a', by decide⟩, ?_⟩
  decide +kernel

end Tokenizer

end Thicket
