import Thicket.Proofs.Literal.Cutting
import Thicket.Proofs.Tokenizer.Intake
import Thicket.Proofs.Tokenizer.Refill

/-!
# Literals do not see refills

A tokenizer whose rules are literals makes of its input what the literals make of the whole text
(`literalTokens`), however the text is spread over pulls, sources and runs, and whatever the sizes are:
an occurrence of a literal stays one, whatever text is to follow, so literals are rules that do not see
refills. The whole text is the one that the sources hand out, and not only what happens to be taken in
(`tokens_independent_of_refills`).
-/

namespace Thicket

namespace Tokenizer

variable {literals : List (Text × SymbolId)} {σ : Type} [Source σ]

omit [Source σ] in
/-- A tokenizer with literals registered one after the other. -/
def registerLiterals (t : Tokenizer σ) (literals : List (Text × SymbolId)) :
    Except Fault (Tokenizer σ) :=
  literals.foldlM (fun t l => t.register (.literal l.1) l.2) t

/-- A history of a tokenizer with literals that are registered up front, in which every run has
succeeded. -/
structure Succeeds (literals : List (Text × SymbolId)) (sizes : BufferSizes) (calls : List (Call σ))
    (t : Tokenizer σ) (d : Record σ) : Prop where
  history : ∃ t₀, registerLiterals { sizes } literals = .ok t₀ ∧ History t₀ calls t d
  fixed : ∀ m id, .register m id ∉ calls
  succeeded : ∀ r ∈ d.runs, r.outcome.isOk = true

omit [Source σ] in
theorem registerLiterals_ok {t t' : Tokenizer σ} (h : registerLiterals t literals = .ok t') :
    t' = { t with rules := t.rules ++ literals.map Rule.literal } := by
  induction literals generalizing t with
  | nil =>
    cases h
    simp
  | cons l literals ih =>
    rw [registerLiterals, List.foldlM_cons] at h
    cases hregister : t.register (.literal l.1) l.2 with
    | error e =>
      rw [hregister] at h
      cases h
    | ok t₁ =>
      rw [hregister] at h
      obtain ⟨-, rfl⟩ := register_cases hregister
      rw [ih h, List.map_cons, ← List.append_cons]
      rfl

/-- Literals stay where they are found, whatever follows. -/
theorem refillable_literals (literals : List (Text × SymbolId)) (text : Text) :
    Refillable (literals.map Rule.literal) text where
  coherent r hr := by
    obtain ⟨l, -, rfl⟩ := List.mem_map.1 hr
    exact Rule.coherent_literal l
  final r hr := by
    obtain ⟨l, -, rfl⟩ := List.mem_map.1 hr
    exact Rule.finalIn_literal l text

theorem Succeeds.tokens_append {sizes : BufferSizes} {calls : List (Call σ)} {t : Tokenizer σ}
    {d : Record σ} (h : Succeeds literals sizes calls t d) :
    d.tokens ++ literalTokens literals t.buffer = literalTokens literals d.intake := by
  obtain ⟨⟨t₀, hstart, hhistory⟩, hfixed, hok⟩ := h
  obtain rfl := registerLiterals_ok hstart
  have hrules := refillable_literals literals d.intake
  have htokens := (hhistory.tokens rfl hrules hfixed hok).2.2 [] (by rw [List.append_nil])
  rw [List.append_nil, List.append_nil] at htokens
  rw [← ruleTokens_literals, ← ruleTokens_literals]
  exact htokens

/-- Runs over sources of texts make of what they are given what the literals make of it. -/
theorem Succeeds.tokens_given {sizes : BufferSizes} {calls : List (Call σ)} {t : Tokenizer σ} {d : Record σ}
    (h : Succeeds literals sizes calls t d) {content : σ → Text}
    (hcontent : ∀ source, .bind source ∈ calls → Source.HandsOut source (content source)) :
    d.tokens ++ literalTokens literals t.buffer = literalTokens literals (given content calls) := by
  rw [h.tokens_append]
  by_cases hnone : literals = []
  · -- nothing is taken in, and nothing would come of it
    rw [hnone, literalTokens, literalTokens]
  · obtain ⟨t₀, hstart, hhistory⟩ := h.history
    obtain rfl := registerLiterals_ok hstart
    have hrules : literals.map Rule.literal ≠ [] := mt List.map_eq_nil_iff.1 hnone
    rw [(hhistory.intake_eq hrules rfl hcontent h.succeeded).2.1]

/-- However sources hand out their texts, over whatever runs these come, and whatever the sizes are: as long as
every run succeeds, the tokens emitted and those that the literals make of the pending text are those that the
literals make of the texts of the sources. So two such histories that are given the same text and leave nothing
pending come to the same tokens. -/
theorem tokens_independent_of_refills {sizes : BufferSizes} {calls : List (Call σ)} {t : Tokenizer σ}
    {d : Record σ} (h : Succeeds literals sizes calls t d) {content : σ → Text}
    (hcontent : ∀ source, .bind source ∈ calls → Source.HandsOut source (content source)) :
    d.tokens ++ literalTokens literals t.buffer = literalTokens literals (given content calls) ∧
    ∀ {τ : Type} [Source τ] {sizes' : BufferSizes} {calls' : List (Call τ)} {t' : Tokenizer τ}
      {d' : Record τ} {content' : τ → Text}, Succeeds literals sizes' calls' t' d' →
      (∀ source, .bind source ∈ calls' → Source.HandsOut source (content' source)) →
      given content' calls' = given content calls → t.buffer = [] → t'.buffer = [] →
      d'.tokens = d.tokens := by
  have htokens := h.tokens_given hcontent
  refine ⟨htokens, ?_⟩
  intro τ _ sizes' calls' t' d' content' h' hcontent' hgiven hbuffer hbuffer'
  have htokens' := h'.tokens_given hcontent'
  rw [hbuffer, literalTokens_nil, List.append_nil] at htokens
  rw [hbuffer', literalTokens_nil, List.append_nil, hgiven] at htokens'
  rw [htokens, htokens']

/-- The text `xbabcabb` comes character by character over two sources, with room for five, and again as lines of
bytes that arrive in two pieces. Both times it comes to the same four tokens. -/
theorem tokens_independent_of_refills_abc :
    let literals : List (Text × SymbolId) := [("abc".toList, 1), ("b".toList, 2)]
    let text : Text := "xbabcabb".toList
    let sources : List CharSource := [⟨"xbabcab".toList⟩, ⟨"b".toList⟩]
    let fineCalls : List (Call CharSource) := sources.flatMap fun source => [.bind source, .run]
    let chunks : List (List UInt8) := [[0x78, 0x62, 0x61], [0x62, 0x63, 0x61, 0x62, 0x62]]
    let reader : ByteReader := ⟨[], chunks.map .bytes⟩
    let coarseCalls : List (Call LineSource) := [.bind (.ofReader reader), .run]
    let fine := replay { sizes := ⟨5, 1, by decide, by decide⟩, rules := literals.map Rule.literal } fineCalls
    let coarse := replay { rules := literals.map Rule.literal } coarseCalls
    given CharSource.rest fineCalls = text ∧ given (fun _ => text) coarseCalls = text ∧
      fine.1.buffer = [] ∧ coarse.1.buffer = [] ∧
      fine.2.tokens = [⟨2, ['b']⟩, ⟨1, ['a', 'b', 'c']⟩, ⟨2, ['b']⟩, ⟨2, ['b']⟩] ∧
      literalTokens literals text = fine.2.tokens ∧ coarse.2.tokens = fine.2.tokens := by
  intro literals text sources fineCalls chunks reader coarseCalls fine coarse
  have hfine : Succeeds literals _ fineCalls fine.1 fine.2 :=
    ⟨⟨_, rfl, history_iff.2 rfl⟩, by simp [fineCalls, sources], by decide +kernel⟩
  have hcoarse : Succeeds literals _ coarseCalls coarse.1 coarse.2 :=
    ⟨⟨_, rfl, history_iff.2 rfl⟩, by simp [coarseCalls], by decide +kernel⟩
  have hchunks : ∀ chunk ∈ chunks, chunk ≠ [] := by decide
  have hsupplies : reader.Supplies (Text.encode text) := ByteReader.supplies_chunks hchunks
  have hlines : ∀ source, .bind source ∈ coarseCalls → Source.HandsOut source text := by
    intro source hmem
    obtain rfl : source = .ofReader reader := by simpa [coarseCalls] using hmem
    exact (LineSource.holds_ofReader hsupplies).handsOut
  have hbuffer : fine.1.buffer = [] := by decide +kernel
  have hbuffer' : coarse.1.buffer = [] := by decide +kernel
  obtain ⟨htokens, hsame⟩ := tokens_independent_of_refills hfine fun source _ => CharSource.handsOut source
  rw [hbuffer, literalTokens_nil, List.append_nil] at htokens
  exact ⟨given_rounds CharSource.rest sources, rfl, hbuffer, hbuffer', by decide +kernel, htokens.symm,
    hsame hcoarse hlines rfl hbuffer hbuffer'⟩

end Tokenizer

end Thicket
