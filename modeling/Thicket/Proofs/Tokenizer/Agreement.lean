import Thicket.Proofs.Source.Agreement
import Thicket.Proofs.Tokenizer.Rounds

/-!
# Runs over sources that agree

A tokenizer knows its source by what it pulls. Tokenizers that are alike but for their sources, and
whose sources agree, settle alike (`settle_withSource`), go through the same rounds (`cycle_agree`) and
so through the same runs (`Runs.agree`); after a run they are again alike, over sources that agree. The
two sources of a text, by characters and by the lines of its bytes, are such sources
(`lines_agree_with_characters`).
-/

namespace Thicket.Tokenizer

variable {σ τ : Type}

/-- The tokenizer over a source of another kind, or over none. -/
def withSource (t : Tokenizer σ) (source : Option τ) : Tokenizer τ := { t with source := source }

/-! ## Settling -/

theorem resolve_withSource (t : Tokenizer σ) (source : Option τ) :
    (t.withSource source).resolve = (t.resolve.1, t.resolve.2.1, t.resolve.2.2.withSource source) := by
  have hresolution : (t.withSource source).resolution = t.resolution := rfl
  cases hcarried : t.resolution.carried with
  | ok text => simp only [resolve, hresolution, hcarried]; rfl
  | error e => simp only [resolve, hresolution, hcarried]; rfl

/-- Settling does not touch the source. -/
theorem settle_withSource (t : Tokenizer σ) (source : Option τ) :
    (t.withSource source).settle = (t.settle.1, t.settle.2.1, t.settle.2.2.withSource source) := by
  have hhead : (t.withSource source).head = t.head := rfl
  simp only [settle, hhead]
  split
  · exact resolve_withSource t source
  · rfl

section Source

variable [Source σ] [Source τ]

/-! ## Rounds -/

/-- Two rounds emit and take in the same, over sources that agree. -/
structure Cycle.Agree (c : Cycle σ) (c' : Cycle τ) : Prop where
  pieces : c.pieces = c'.pieces
  intake : c.intake = c'.intake
  pulled : c.pulled = c'.pulled
  tokenizer : c.tokenizer.withSource c'.tokenizer.source = c'.tokenizer
  source : Source.Agree c.source c'.source

/-- A round over one source goes as a round over another that agrees. -/
theorem cycle_agree {t : Tokenizer σ} {t' : Tokenizer τ} (ht : t.withSource t'.source = t') {a : σ}
    {b : τ} (h : Source.Agree a b) : (t.cycle a).Agree (t'.cycle b) := by
  have hsettle' := settle_withSource t t'.source
  rw [ht] at hsettle'
  obtain ⟨pieces, e, u, hsettle, hcycle⟩ | ⟨pieces, u, hsettle, hroom, hcycle⟩ := cycle_cases t a <;>
    rw [hsettle] at hsettle' <;> rw [hcycle]
  · have hcycle' : t'.cycle b = ⟨pieces, [], .error e, u.withSource t'.source, b⟩ := by
      simp only [cycle, hsettle']
    rw [hcycle']
    exact ⟨rfl, rfl, rfl, rfl, h⟩
  · have hcycle' : t'.cycle b = ⟨pieces, (Source.pull b u.request).text,
        (Source.pull b u.request).result,
        (u.receive (Source.pull b u.request).text (Source.pull b u.request).result).withSource t'.source,
        (Source.pull b u.request).source⟩ := cycle_of_settle hsettle' b
    -- both ask for the same and get the same
    obtain ⟨htext, hresult⟩ := h.answer u.request
    rw [hcycle', htext, hresult]
    exact ⟨rfl, rfl, rfl, rfl, h.source _⟩

/-! ## Runs -/

/-- The tokenizers are alike but for their sources, and their sources agree. -/
structure Agree (t : Tokenizer σ) (t' : Tokenizer τ) : Prop where
  withSource_eq : t.withSource t'.source = t'
  source : Option.Rel Source.Agree t.source t'.source

/-- Two runs emit and take in the same, end in the same way, and leave tokenizers that agree. -/
structure Run.Agree (r : Run σ) (r' : Run τ) : Prop where
  pieces : r.pieces = r'.pieces
  intake : r.intake = r'.intake
  outcome : r.outcome = r'.outcome
  tokenizer : r.tokenizer.Agree r'.tokenizer

theorem bind_agree {t : Tokenizer σ} {t' : Tokenizer τ} (ht : t.withSource t'.source = t') {a : σ}
    {b : τ} (h : Source.Agree a b) : (t.bind a).Agree (t'.bind b) where
  withSource_eq := by rw [← ht]; rfl
  source := .some h

theorem Cycle.Agree.finish {c : Cycle σ} {c' : Cycle τ} (h : c.Agree c') (outcome : Except Fault Nat) :
    Run.Agree (c.finish outcome) (c'.finish outcome) :=
  ⟨h.pieces, h.intake, rfl, bind_agree h.tokenizer h.source⟩

theorem Run.Agree.after {r : Run σ} {r' : Run τ} (h : r.Agree r') {c : Cycle σ} {c' : Cycle τ}
    (hc : c.Agree c') : Run.Agree (r.after c) (r'.after c') where
  pieces := by rw [Run.pieces_after, Run.pieces_after, hc.pieces, h.pieces]
  intake := by rw [Run.intake_after, Run.intake_after, hc.intake, h.intake]
  outcome := by rw [Run.after, Run.after, hc.pieces, h.outcome]
  tokenizer := h.tokenizer

theorem Drains.agree {t : Tokenizer σ} {t' : Tokenizer τ} {a : σ} {b : τ} {r : Run σ}
    (hdrains : Drains t a r) (ht : t.withSource t'.source = t') (h : Source.Agree a b) :
    ∃ r', Drains t' b r' ∧ r.Agree r' := by
  induction hdrains generalizing t' b with
  | failed hpulled =>
    have hc := cycle_agree ht h
    exact ⟨_, .failed (hc.pulled ▸ hpulled), hc.finish _⟩
  | ended hpulled =>
    have hc := cycle_agree ht h
    refine ⟨_, .ended (hc.pulled ▸ hpulled), ?_⟩
    rw [hc.pieces]
    exact hc.finish _
  | again hpulled _ ih =>
    have hc := cycle_agree ht h
    obtain ⟨later', hlater', hagree⟩ := ih hc.tokenizer hc.source
    exact ⟨_, .again (hc.pulled ▸ hpulled) hlater', hagree.after hc⟩

/-- Over sources that agree, a run that ends has its like. -/
theorem Runs.agree {t : Tokenizer σ} {t' : Tokenizer τ} {r : Run σ} (hruns : Runs t r)
    (h : t.Agree t') : ∃ r', Runs t' r' ∧ r.Agree r' := by
  have hrules : t'.rules = t.rules := by rw [← h.withSource_eq]; rfl
  cases hruns with
  | idle hnone => exact ⟨_, .idle (hrules.trans hnone), rfl, rfl, rfl, h⟩
  | unbound hsome hsource =>
    have hrel := h.source
    rw [hsource] at hrel
    have hsource' : t'.source = none := by
      cases hs : t'.source with
      | none => rfl
      | some b => rw [hs] at hrel; cases hrel
    exact ⟨_, .unbound (hrules ▸ hsome) hsource', rfl, rfl, rfl, h⟩
  | @drains a _ hsome hsource hdrains =>
    have hrel := h.source
    rw [hsource] at hrel
    cases hs : t'.source with
    | none => rw [hs] at hrel; cases hrel
    | some b =>
      rw [hs] at hrel
      cases hrel with
      | some hab =>
        obtain ⟨r', hr', hagree⟩ := hdrains.agree h.withSource_eq hab
        exact ⟨r', .drains (hrules ▸ hsome) hs hr', hagree⟩

end Source

theorem run_agree [FiniteSource σ] [FiniteSource τ] {t : Tokenizer σ} {t' : Tokenizer τ}
    (h : t.Agree t') : t.run.Agree t'.run := by
  obtain ⟨r', hr', hagree⟩ := Runs.agree (runs_iff.2 rfl) h
  rwa [runs_iff.1 hr'] at hagree

/-! ## Characters and lines of one text -/

/-- A source over the bytes of a text, in whatever chunks they come, and a source of its characters give
the same answers: the next characters of the text, as many as were asked for or as there are. So no run
of a tokenizer tells them apart. -/
theorem lines_agree_with_characters {text : Text} {chunks : List (List UInt8)}
    (hne : ∀ chunk ∈ chunks, chunk ≠ []) (hbytes : chunks.flatten = text.encode) :
    let lines := LineSource.ofReader ⟨[], chunks.map .bytes⟩
    let characters := CharSource.mk text
    (∀ mosts, Source.answers lines mosts = text.portions mosts ∧
      Source.answers characters mosts = text.portions mosts) ∧
    ∀ t : Tokenizer LineSource, (t.bind lines).run.Agree ((t.withSource none).bind characters).run := by
  intro lines characters
  have hsupplies : ByteReader.Supplies ⟨[], chunks.map .bytes⟩ text.encode :=
    hbytes ▸ ByteReader.supplies_chunks hne
  have hlines := LineSource.answers_of_holds (LineSource.holds_ofReader hsupplies)
  have hcharacters := CharSource.answers_eq_portions characters
  have hagree : Source.Agree lines characters :=
    fun mosts => (hlines mosts).trans (hcharacters mosts).symm
  exact ⟨fun mosts => ⟨hlines mosts, hcharacters mosts⟩, fun t => run_agree (bind_agree rfl hagree)⟩

/-- The bytes may be cut within a character, and a pull may go over the end of a line. -/
theorem lines_agree_with_characters_cut_within :
    let chunks : List (List UInt8) := [[0xC3], [0xA9, 0x0A], [0x62]]
    let lines := LineSource.ofReader ⟨[], chunks.map .bytes⟩
    let tokenizer : Tokenizer LineSource := { rules := [⟨.oneOf ['b'], 1⟩] }
    let run := (tokenizer.bind lines).run
    Source.answers lines [2, 5] = [(['é', '\n'], .ok 2), (['b'], .ok 1)] ∧
      run.pieces = [.dropped ['é', '\n'], .token ⟨1, ['b']⟩] ∧
      run.Agree ((tokenizer.withSource none).bind (CharSource.mk ['é', '\n', 'b'])).run := by
  intro chunks lines tokenizer run
  have hne : ∀ chunk ∈ chunks, chunk ≠ [] := by decide
  have hbytes : chunks.flatten = Text.encode ['é', '\n', 'b'] := by decide
  obtain ⟨hanswers, hruns⟩ := lines_agree_with_characters hne hbytes
  exact ⟨(hanswers [2, 5]).1, by decide +kernel, hruns tokenizer⟩

end Thicket.Tokenizer
