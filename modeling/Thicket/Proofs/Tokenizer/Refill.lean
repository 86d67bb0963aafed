import Thicket.Proofs.Tokenizer.Conservation
import Thicket.Proofs.Tokenizer.Cutting

/-!
# Rules that do not see refills

If the rules of a tokenizer are coherent, and what they find in a part of the text stays what they find
when more of the text arrives, then the tokenizer makes of its input what the rules make of the whole
text (`ruleTokens`), however the text is spread over pulls, sources and runs, and whatever the sizes are.
Nothing is emitted or dropped before it is certain that no token reaches across: a resolution that
succeeds leaves the tokens of the text, with any text to follow, as they are (`tokens_resolveText`), and
so do rounds, runs and histories.
-/

namespace Thicket

/-- Rules that a text can be cut by while it is still coming in. -/
structure Refillable (rules : List Rule) (text : Text) : Prop where
  coherent : ∀ r ∈ rules, r.Coherent
  final : ∀ r ∈ rules, r.FinalIn text

variable {rules : List Rule} {text : Text}

/-! ## Answers -/

/-- Rules that have given no answer have no token that begins in the text, if nothing follows it or if
it is the last. -/
theorem allClear_of_no_answer {last : Bool} {t : Text} (hrules : ∀ r ∈ rules, r.Coherent)
    (h : ∀ r ∈ rules, r.answer? last t = none) (w : Text) (hw : last = true ∨ w = []) :
    Rule.AllClear rules t w := by
  intro r hr
  by_cases hlast : last = true
  · subst hlast
    exact (hrules r hr).clear_of_no_answer t (h r hr) w
  · rw [hw.resolve_left hlast]
    exact (hrules r hr).clear_of_no_cut t (Rule.cut?_of_answer?_none (h r hr))

/-- A full answer is the token of one rule, and the rules before it have none that begins in the
text. -/
theorem firstAnswer?_coherent_full {last : Bool} {t : Text} {c : Text.Cut} {id : SymbolId}
    (hrules : ∀ r ∈ rules, r.Coherent)
    (h : Rule.firstAnswer? rules last t = some (.full c id)) :
    ∃ higher r lower, rules = higher ++ r :: lower ∧ r.cut? t = some c ∧ id = r.id ∧
      ∀ w, last = true ∨ w = [] → Rule.AllClear higher t w := by
  rw [Rule.firstAnswer?, List.findSome?_eq_some_iff] at h
  obtain ⟨higher, r, lower, rfl, hfull, hnone⟩ := h
  obtain ⟨hcut, hid⟩ := Rule.cut?_of_answer? hfull
  have hhigher : ∀ r ∈ higher, r.Coherent := fun r hr => hrules r (List.mem_append_left _ hr)
  exact ⟨higher, r, lower, rfl, hcut, hid, allClear_of_no_answer hhigher hnone⟩

theorem firstAnswer?_coherent_none {last : Bool} {t w : Text} (hrules : ∀ r ∈ rules, r.Coherent)
    (h : Rule.firstAnswer? rules last t = none) (hw : last = true ∨ w = []) :
    Rule.AllClear rules t w := by
  rw [Rule.firstAnswer?, List.findSome?_eq_none_iff] at h
  exact allClear_of_no_answer hrules h w hw

/-! ## Resolving -/

/-- The tokens that a stack of segments comes to, if a text follows it: its open texts are cut by the
rules, the last one together with what follows. -/
def stackTokens (rules : List Rule) (more : Text) : List Segment → List Symbol
  | [] => ruleTokens rules more
  | .token s :: work => s :: stackTokens rules more work
  | .unresolved t :: work =>
    if work.isEmpty then ruleTokens rules (t ++ more)
    else ruleTokens rules t ++ stackTokens rules more work

theorem stackTokens_nil (more : Text) (work : List Segment) :
    stackTokens rules more (.unresolved [] :: work) = stackTokens rules more work := by
  rw [stackTokens, ruleTokens_nil]
  split
  · next hlast =>
    rw [List.isEmpty_iff.1 hlast]
    rfl
  · rfl

/-- An open text in which no token begins can be taken off. -/
theorem stackTokens_of_allClear {more t : Text} {work : List Segment}
    (h : ∀ w, work.isEmpty = true ∨ w = [] → Rule.AllClear rules t w) :
    stackTokens rules more (.unresolved t :: work) = stackTokens rules more work := by
  rw [stackTokens]
  split
  · next hlast =>
    rw [ruleTokens_append (h more (.inl hlast)), List.isEmpty_iff.1 hlast, stackTokens]
  · have hnil := ruleTokens_append (h [] (.inr rfl))
    rw [List.append_nil, ruleTokens_nil] at hnil
    rw [hnil, List.nil_append]

/-- An open text can be cut around a token. -/
theorem stackTokens_cut (h : Refillable rules text) {more t : Text} {c : Text.Cut} {id : SymbolId}
    {work : List Segment} (hanswer : Rule.firstAnswer? rules work.isEmpty t = some (.full c id))
    (htext : Segment.texts (.unresolved t :: work) ++ more <:+: text) :
    stackTokens rules more (.unresolved t :: work) =
      stackTokens rules more
        (.unresolved c.before :: .token ⟨id, c.part⟩ :: .unresolved c.after :: work) := by
  obtain ⟨higher, r, lower, hlist, hcut, rfl, hhigher⟩ :=
    firstAnswer?_coherent_full h.coherent hanswer
  have hr : r ∈ rules := by
    rw [hlist]
    exact List.mem_append_right _ List.mem_cons_self
  have hbefore := (h.coherent r hr).leftmost t c hcut
  have hparts : ∀ w, work.isEmpty = true ∨ w = [] → t ++ w <:+: text →
      ruleTokens rules (t ++ w) =
        ruleTokens rules c.before ++ ⟨r.id, c.part⟩ :: ruleTokens rules (c.after ++ w) := by
    intro w hw hinfix
    have hfinal : ∀ w', w' <+: w → r.cut? (t ++ w') = some (c.append w') := by
      intro w' hw'
      have hsub : t ++ w' <+: t ++ w := (List.prefix_append_right_inj t).2 hw'
      exact h.final r hr t w' c (hsub.isInfix.trans hinfix) hcut
    rw [hlist]
    exact ruleTokens_cut hcut hbefore hfinal (hhigher w hw)
  have hinfix : t <:+: text := by
    have hsub : t <+: Segment.texts (.unresolved t :: work) ++ more :=
      ⟨Segment.texts work ++ more, by simp [Segment.text]⟩
    exact hsub.isInfix.trans htext
  simp only [stackTokens, List.isEmpty_cons, Bool.false_eq_true, ↓reduceIte]
  split
  · next hlast =>
    apply hparts more (.inl hlast)
    rw [List.isEmpty_iff.1 hlast] at htext
    simpa [Segment.text] using htext
  · have := hparts [] (.inr rfl) (by rwa [List.append_nil])
    rw [List.append_nil, List.append_nil] at this
    rw [this, List.append_assoc, List.cons_append]

/-- If resolving a stack succeeds, its tokens, and those that the carried text will come to with the
text that follows, are those of the stack. -/
theorem tokens_resolveSegments (h : Refillable rules text) {capacity : Nat} {work : List Segment}
    {carried more : Text} (hcarried : (resolveSegments capacity rules work).carried = .ok carried)
    (htext : Segment.texts work ++ more <:+: text) :
    Piece.tokens (resolveSegments capacity rules work).pieces ++ ruleTokens rules (carried ++ more) =
      stackTokens rules more work := by
  -- what is left of the stack is still followed by the same text
  have hrest : ∀ {s : Segment} {work : List Segment},
      Segment.texts (s :: work) ++ more <:+: text → Segment.texts work ++ more <:+: text := by
    intro s work hinfix
    rw [Segment.texts_cons, List.append_assoc] at hinfix
    exact (List.suffix_append s.text _).isInfix.trans hinfix
  fun_induction resolveSegments capacity rules work with
  | case1 =>
    cases hcarried
    rfl
  | case2 s work ih =>
    rw [stackTokens, ← ih hcarried (hrest htext)]
    rfl
  | case3 work ih =>
    rw [stackTokens_nil, ← ih hcarried (hrest htext)]
  | case4 c rest work cut id answer ih =>
    rw [stackTokens_cut h answer htext]
    apply ih hcarried
    obtain ⟨hcut, -⟩ := Rule.firstAnswer?_full answer
    rw [Segment.texts_cons, Segment.text, ← hcut] at htext
    simpa [Segment.text] using htext
  | case5 => cases hcarried
  | case6 c rest work answer =>
    obtain rfl := List.isEmpty_iff.1 (Rule.firstAnswer?_begun answer)
    cases hcarried
    rfl
  | case7 c rest work answer ih =>
    rw [stackTokens_of_allClear fun w hw => firstAnswer?_coherent_none h.coherent answer hw,
      ← ih hcarried (hrest htext)]
    rfl

/-- If resolving a text succeeds, the tokens that the text comes to with what follows are the tokens
emitted and those that the carried text will come to. -/
theorem tokens_resolveText (h : Refillable rules text) {capacity : Nat} {t carried more : Text}
    (hcarried : (resolveText capacity rules t).carried = .ok carried) (htext : t ++ more <:+: text) :
    Piece.tokens (resolveText capacity rules t).pieces ++ ruleTokens rules (carried ++ more) =
      ruleTokens rules (t ++ more) := by
  apply tokens_resolveSegments h hcarried
  simpa [Segment.text] using htext

namespace Tokenizer

variable {σ : Type}

theorem tokens_settle {t t' : Tokenizer σ} {pieces : List Piece} {more : Text}
    (h : Refillable t.rules text) (hsettle : t.settle = (pieces, none, t'))
    (htext : t.buffer ++ more <:+: text) :
    Piece.tokens pieces ++ ruleTokens t.rules (t'.buffer ++ more) =
      ruleTokens t.rules (t.buffer ++ more) := by
  obtain ⟨-, heq⟩ | ⟨carried, hcarried, heq⟩ | ⟨e, -, heq⟩ := settle_cases t <;>
    rw [heq] at hsettle <;> cases hsettle
  · rfl
  · exact tokens_resolveText h hcarried htext

variable [Source σ]

/-! ## Runs -/

/-- A round that succeeds moves text from the buffer and the source into pieces. -/
theorem texts_cycle_of_ok {t : Tokenizer σ} {source : σ} {n : Nat}
    (h : (t.cycle source).pulled = .ok n) :
    Piece.texts (t.cycle source).pieces ++ (t.cycle source).tokenizer.buffer =
      t.buffer ++ (t.cycle source).intake := by
  obtain ⟨pieces, t', hsettle, -, -, heq⟩ := cycle_of_ok h
  rw [heq]
  exact texts_receive hsettle _ _

theorem tokens_cycle {t : Tokenizer σ} {source : σ} {n : Nat} {more : Text}
    (h : Refillable t.rules text) (hpulled : (t.cycle source).pulled = .ok n)
    (htext : t.buffer ++ ((t.cycle source).intake ++ more) <:+: text) :
    Piece.tokens (t.cycle source).pieces ++
        ruleTokens t.rules ((t.cycle source).tokenizer.buffer ++ more) =
      ruleTokens t.rules (t.buffer ++ ((t.cycle source).intake ++ more)) := by
  obtain ⟨pieces, t', hsettle, -, -, heq⟩ := cycle_of_ok hpulled
  rw [heq] at htext ⊢
  rw [← tokens_settle h hsettle htext, ← List.append_assoc]
  rfl

theorem Drains.tokens {t : Tokenizer σ} {source : σ} {r : Run σ} (h : Drains t source r)
    (hrules : Refillable t.rules text) {n : Nat} (hok : r.outcome = .ok n) {more : Text}
    (htext : t.buffer ++ (r.intake ++ more) <:+: text) :
    Piece.tokens r.pieces ++ ruleTokens t.rules (r.tokenizer.buffer ++ more) =
      ruleTokens t.rules (t.buffer ++ (r.intake ++ more)) := by
  induction h generalizing n with
  | failed => cases hok
  | ended hpulled => exact tokens_cycle hrules hpulled htext
  | @again t source count later hpulled _ ih =>
    obtain ⟨m, hm, -⟩ := Run.outcome_after hok
    have hsame := (cycle_emits t source).rules
    rw [Run.intake_after, List.append_assoc] at htext
    -- what comes after the round is the end of the same text
    have hlater : (t.cycle source).tokenizer.buffer ++ (later.intake ++ more) <:+: text := by
      rw [← List.append_assoc, ← texts_cycle_of_ok hpulled, List.append_assoc] at htext
      exact (List.suffix_append _ _).isInfix.trans htext
    have htokens := ih (hsame ▸ hrules) hm hlater
    rw [hsame] at htokens
    rw [Run.pieces_after, Run.tokenizer_after, Run.intake_after, Piece.tokens_append,
      List.append_assoc, htokens, tokens_cycle hrules hpulled htext, List.append_assoc]

theorem Drains.texts_of_ok {t : Tokenizer σ} {source : σ} {r : Run σ} (h : Drains t source r)
    {n : Nat} (hok : r.outcome = .ok n) :
    Piece.texts r.pieces ++ r.tokenizer.buffer = t.buffer ++ r.intake := by
  induction h generalizing n with
  | failed => cases hok
  | ended hpulled => exact texts_cycle_of_ok hpulled
  | @again t source count later hpulled _ ih =>
    obtain ⟨m, hm, -⟩ := Run.outcome_after hok
    rw [Run.pieces_after, Run.tokenizer_after, Run.intake_after, Piece.texts_append,
      List.append_assoc, ih hm, ← List.append_assoc, texts_cycle_of_ok hpulled, List.append_assoc]

theorem Runs.texts_of_ok {t : Tokenizer σ} {r : Run σ} (h : Runs t r) {n : Nat}
    (hok : r.outcome = .ok n) :
    Piece.texts r.pieces ++ r.tokenizer.buffer = t.buffer ++ r.intake := by
  cases h with
  | idle => simp
  | unbound => cases hok
  | drains _ _ hdrains => exact hdrains.texts_of_ok hok

/-- A run that succeeds leaves what the rules make of the text as it is: tokens that are emitted are
those of the text, and the text that is pending is such that the others will be. -/
theorem Runs.tokens {t : Tokenizer σ} {r : Run σ} (h : Runs t r) (hrules : Refillable t.rules text)
    {n : Nat} (hok : r.outcome = .ok n) {more : Text}
    (htext : t.buffer ++ (r.intake ++ more) <:+: text) :
    Piece.tokens r.pieces ++ ruleTokens t.rules (r.tokenizer.buffer ++ more) =
      ruleTokens t.rules (t.buffer ++ (r.intake ++ more)) := by
  cases h with
  | idle => rfl
  | unbound => cases hok
  | drains _ _ hdrains => exact hdrains.tokens hrules hok htext

/-! ## Histories -/

/-- In a history without a registration in which every run succeeds, the tokens emitted and those that
the pending text will come to are the tokens of the whole text. -/
theorem History.tokens {t₀ t : Tokenizer σ} {calls : List (Call σ)} {d : Record σ}
    (h : History t₀ calls t d) (hstart : t₀.buffer = []) (hrules : Refillable t₀.rules text)
    (hfixed : ∀ m id, .register m id ∉ calls) (hok : ∀ r ∈ d.runs, r.outcome.isOk = true) :
    t.rules = t₀.rules ∧ t.buffer <:+ d.intake ∧
      ∀ more, d.intake ++ more <:+: text →
        d.tokens ++ ruleTokens t₀.rules (t.buffer ++ more) =
          ruleTokens t₀.rules (d.intake ++ more) := by
  induction h with
  | start =>
    refine ⟨rfl, ?_, ?_⟩
    · rw [hstart]
      exact List.nil_suffix
    · intro more _
      rw [hstart]
      rfl
  | @call calls c t t' d d' _ does ih =>
    have hfixed' : ∀ m id, .register m id ∉ calls := fun m id hmem =>
      hfixed m id (List.mem_append_left _ hmem)
    cases does with
    | registered => exact absurd (List.mem_append_right _ List.mem_cons_self) (hfixed _ _)
    | notRegistered => exact ih hfixed' hok
    | bound => exact ih hfixed' hok
    | listening => exact ih hfixed' hok
    | @ran r hrun =>
      obtain ⟨n, hn⟩ := Run.exists_outcome (hok r (List.mem_append_right _ List.mem_cons_self))
      obtain ⟨hsame, hsuffix, htokens⟩ :=
        ih hfixed' fun r' hr' => hok r' (List.mem_append_left _ hr')
      obtain ⟨e, he⟩ := hsuffix
      have htexts := hrun.texts_of_ok hn
      refine ⟨hrun.emits.rules.trans hsame, ?_, ?_⟩
      · rw [Record.intake_addRun, ← he, List.append_assoc, ← htexts, ← List.append_assoc]
        exact List.suffix_append _ _
      · intro more hinfix
        rw [Record.intake_addRun, List.append_assoc] at hinfix ⊢
        have hbuffer : t.buffer ++ (r.intake ++ more) <:+: text := by
          rw [← he, List.append_assoc] at hinfix
          exact (List.suffix_append e _).isInfix.trans hinfix
        have hlater := hrun.tokens (hsame ▸ hrules) hn hbuffer
        rw [hsame] at hlater
        rw [Record.tokens_addRun, List.append_assoc, hlater, htokens _ hinfix]
    | popped h =>
      obtain ⟨-, heq⟩ := pop_cases h
      rw [heq]
      exact ih hfixed' hok
    | notPopped => exact ih hfixed' hok

end Tokenizer

end Thicket
