import Mathlib.Data.List.Basic
import Thicket.Matcher.Literal
import Thicket.Proofs.Source.Counting
import Thicket.Proofs.Tokenizer.History

/-!
# No text is lost, doubled or reordered

Over lawful sources the tokens and the dropped texts of all runs, in the order in which they were
emitted, and the text that is pending are the text that was taken in: `text_conserved`. This holds
after every call, also after a run that has failed. What makes it hold is that the head counts the
characters of the buffer and that these fit (`Sound`): then a resolution that fails has been refused
the buffer as a whole, and has emitted nothing.
-/

namespace Thicket.Tokenizer

variable {σ : Type}

/-- The head counts the characters of the buffer, and they fit. -/
structure Sound (t : Tokenizer σ) : Prop where
  head_eq : t.head = t.buffer.length
  fits : t.buffer.length ≤ t.sizes.capacity

theorem sound_mk (sizes : BufferSizes) : Sound ({ sizes } : Tokenizer σ) :=
  ⟨rfl, Nat.zero_le _⟩

/-- Only buffer, head and capacity count. -/
theorem Sound.congr {t t' : Tokenizer σ} (ht : t.Sound) (hbuffer : t'.buffer = t.buffer)
    (hhead : t'.head = t.head) (hsizes : t'.sizes = t.sizes) : t'.Sound := by
  constructor
  · rw [hhead, hbuffer, ht.head_eq]
  · rw [hbuffer, hsizes]
    exact ht.fits

theorem emit_nil (t : Tokenizer σ) : t.emit [] = t := by
  cases t with
  | mk sizes rules source listener reports buffer head queue => cases listener <;> simp [emit]

/-! ## One round -/

/-- Settling moves text from the buffer into pieces. -/
theorem texts_settle {t t' : Tokenizer σ} {pieces : List Piece}
    (h : t.settle = (pieces, none, t')) : Piece.texts pieces ++ t'.buffer = t.buffer := by
  obtain ⟨-, hsettle⟩ | ⟨text, hcarried, hsettle⟩ | ⟨e, -, hsettle⟩ := settle_cases t <;>
    rw [hsettle] at h <;> cases h
  · rfl
  · exact (resolveText_texts hcarried).1

/-- Text that is received after settling comes behind what was pending. -/
theorem texts_receive {t t' : Tokenizer σ} {pieces : List Piece}
    (h : t.settle = (pieces, none, t')) (text : Text) (pulled : Except Fault Nat) :
    Piece.texts pieces ++ (t'.receive text pulled).buffer = t.buffer ++ text := by
  show Piece.texts pieces ++ (t'.buffer ++ text) = t.buffer ++ text
  rw [← List.append_assoc, texts_settle h]

theorem Sound.settle {t t' : Tokenizer σ} {pieces : List Piece} (ht : t.Sound)
    (h : t.settle = (pieces, none, t')) : t'.Sound := by
  have hroom := head_lt_of_settle h
  obtain ⟨-, hsettle⟩ | ⟨text, -, hsettle⟩ | ⟨e, -, hsettle⟩ := settle_cases t <;>
    rw [hsettle] at h <;> cases h
  · exact ht
  · exact ⟨rfl, Nat.le_of_lt hroom⟩

/-- If settling fails, nothing was emitted and nothing has changed. -/
theorem Sound.settle_error {t t' : Tokenizer σ} {pieces : List Piece} {e : Fault} (ht : t.Sound)
    (h : t.settle = (pieces, some e, t')) :
    pieces = [] ∧ t' = t ∧ t.resolution = ⟨[], .error e⟩ := by
  obtain ⟨-, hsettle⟩ | ⟨text, -, hsettle⟩ | ⟨e', hcarried, hsettle⟩ := settle_cases t <;>
    rw [hsettle] at h <;> cases h
  have hrefused := resolveText_refused ht.fits hcarried
  rw [resolution, hrefused] at hcarried
  cases hcarried
  rw [resolution, hrefused]
  exact ⟨rfl, t.emit_nil, rfl⟩

variable [Source σ]

/-- A round fails because the source does, or because it is refused the whole buffer. -/
theorem Sound.cycle_error {t : Tokenizer σ} (ht : t.Sound) {source : σ} {e : Fault}
    (h : (t.cycle source).pulled = .error e) :
    (∃ most, (Source.pull source most).result = .error e) ∨
      (t.cycle source).tokenizer.resolution = ⟨[], .error e⟩ := by
  obtain ⟨pieces, e', t', hsettle, heq⟩ | ⟨pieces, t', hsettle, hroom, heq⟩ :=
    cycle_cases t source <;> rw [heq] at h ⊢
  · cases h
    obtain ⟨-, rfl, hrefused⟩ := ht.settle_error hsettle
    exact .inr hrefused
  · exact .inl ⟨t'.request, h⟩

/-- Receiving what was counted right keeps the head right, and the buffer does not overflow. -/
theorem Sound.receive_ok [CountingSource σ] {t : Tokenizer σ} (ht : t.Sound)
    (hroom : t.head < t.sizes.capacity) {source : σ} {count : Nat}
    (h : (Source.pull source t.request).result = .ok count) :
    (t.receive (Source.pull source t.request).text (.ok count)).Sound := by
  have hlen := CountingSource.length_text_le source t.request
  have hcount := CountingSource.length_text_of_ok source t.request count h
  have hhead := ht.head_eq
  have hrequest : t.request ≤ t.sizes.capacity - t.head := Nat.min_le_left _ _
  constructor <;> simp only [Tokenizer.receive, List.length_append] <;> omega

section Lawful

variable [LawfulSource σ]

/-- Receiving what a lawful source hands out keeps the head right, and the buffer does not overflow. -/
theorem Sound.receive {t : Tokenizer σ} (ht : t.Sound) (hroom : t.head < t.sizes.capacity)
    (source : σ) :
    (t.receive (Source.pull source t.request).text (Source.pull source t.request).result).Sound := by
  have hhead := ht.head_eq
  cases hresult : (Source.pull source t.request).result with
  | ok count => exact ht.receive_ok hroom hresult
  | error e =>
    rw [LawfulSource.text_of_error source t.request e hresult]
    constructor <;> simp only [Tokenizer.receive, List.append_nil]
    · exact hhead
    · exact ht.fits

/-- What a round emits and what it leaves pending are what was pending before and what it took in. -/
theorem Sound.cycle {t : Tokenizer σ} (ht : t.Sound) (source : σ) :
    (t.cycle source).tokenizer.Sound ∧
      Piece.texts (t.cycle source).pieces ++ (t.cycle source).tokenizer.buffer =
        t.buffer ++ (t.cycle source).intake := by
  obtain ⟨pieces, e, t', hsettle, h⟩ | ⟨pieces, t', hsettle, hroom, h⟩ :=
    cycle_cases t source <;> rw [h]
  · obtain ⟨rfl, rfl, -⟩ := ht.settle_error hsettle
    exact ⟨ht, by simp⟩
  · exact ⟨(ht.settle hsettle).receive hroom source, texts_receive hsettle _ _⟩

/-! ## Runs -/

/-- What a run emits and what it leaves pending are what was pending before and what it took in. -/
theorem Drains.conserve {t : Tokenizer σ} {source : σ} {r : Run σ} (h : Drains t source r)
    (ht : t.Sound) :
    r.tokenizer.Sound ∧ Piece.texts r.pieces ++ r.tokenizer.buffer = t.buffer ++ r.intake := by
  induction h with
  | @failed t source =>
    obtain ⟨hsound, htexts⟩ := ht.cycle source
    exact ⟨⟨hsound.head_eq, hsound.fits⟩, htexts⟩
  | @ended t source =>
    obtain ⟨hsound, htexts⟩ := ht.cycle source
    exact ⟨⟨hsound.head_eq, hsound.fits⟩, htexts⟩
  | @again t source count later _ _ ih =>
    obtain ⟨hsound, htexts⟩ := ht.cycle source
    obtain ⟨hsound', htexts'⟩ := ih hsound
    refine ⟨hsound', ?_⟩
    rw [Run.pieces_after, Run.tokenizer_after, Run.intake_after, Piece.texts_append,
      List.append_assoc, htexts', ← List.append_assoc, htexts, List.append_assoc]

theorem Runs.conserve {t : Tokenizer σ} {r : Run σ} (h : Runs t r) (ht : t.Sound) :
    r.tokenizer.Sound ∧ Piece.texts r.pieces ++ r.tokenizer.buffer = t.buffer ++ r.intake := by
  cases h with
  | idle => exact ⟨ht, by simp⟩
  | unbound => exact ⟨ht, by simp⟩
  | drains _ _ hdrains => exact hdrains.conserve ht

theorem Drains.error {t : Tokenizer σ} {source : σ} {r : Run σ} (h : Drains t source r)
    (ht : t.Sound) {e : Fault} (he : r.outcome = .error e) :
    (∃ (source : σ) (most : Nat), (Source.pull source most).result = .error e) ∨
      r.tokenizer.resolution = ⟨[], .error e⟩ := by
  induction h with
  | @failed t source e' hpulled =>
    cases he
    exact (ht.cycle_error hpulled).imp_left fun hsource => ⟨source, hsource⟩
  | ended => cases he
  | @again t source count later _ _ ih => exact ih (ht.cycle source).1 (Run.outcome_after_error he)

/-- A run that fails because too much would have to be carried over is refused the pending text as a
whole: resolving it emits nothing. -/
theorem Runs.exhausted {t : Tokenizer σ} {r : Run σ} (h : Runs t r) (ht : t.Sound) {e : Fault}
    (he : r.outcome = .error e) (hcategory : e.category = .exhausted)
    (hsource : ∀ (source : σ) (most : Nat), (Source.pull source most).result ≠ .error e) :
    r.tokenizer.resolution = ⟨[], .error e⟩ := by
  cases h with
  | idle => cases he
  | unbound => cases he; cases hcategory
  | drains _ _ hdrains =>
    rcases hdrains.error ht he with ⟨source, most, hpull⟩ | hrefused
    · exact absurd hpull (hsource source most)
    · exact hrefused

/-! ## Histories -/

theorem Call.Does.conserve {t t' : Tokenizer σ} {d d' : Record σ} {c : Call σ}
    (h : c.Does t d t' d') (ht : t.Sound) (htexts : Piece.texts d.pieces ++ t.buffer = d.intake) :
    t'.Sound ∧ Piece.texts d'.pieces ++ t'.buffer = d'.intake := by
  rcases h.run_or_same with ⟨r, hrun, rfl, rfl⟩ | ⟨hbuffer, hhead, hsizes, hruns⟩
  · obtain ⟨hsound, hrun⟩ := hrun.conserve ht
    refine ⟨hsound, ?_⟩
    rw [Record.pieces_addRun, Record.intake_addRun, Piece.texts_append, List.append_assoc, hrun,
      ← List.append_assoc, htexts]
  · refine ⟨ht.congr hbuffer hhead hsizes, ?_⟩
    unfold Record.pieces Record.intake at htexts ⊢
    rw [hruns, hbuffer, htexts]

theorem History.conserve {sizes : BufferSizes} {calls : List (Call σ)} {t : Tokenizer σ}
    {d : Record σ} (h : History { sizes } calls t d) :
    t.Sound ∧ Piece.texts d.pieces ++ t.buffer = d.intake := by
  induction h with
  | start => exact ⟨sound_mk sizes, rfl⟩
  | call _ does ih => exact does.conserve ih.1 ih.2

/-- After every call of every history over lawful sources: what was emitted, in order, and what is
pending are the text that was taken in; every token is not empty and has the id of a rule, which is not
zero; the queue holds the tokens that were queued and not taken, in order. Every run from there on
queues its tokens and reports its dropped texts, tells their number if it succeeds, and has emitted
nothing of the pending text if it fails for want of capacity. -/
theorem text_conserved {sizes : BufferSizes} {calls : List (Call σ)} {t : Tokenizer σ} {d : Record σ}
    (h : History { sizes } calls t d) :
    Piece.texts d.pieces ++ t.buffer = d.intake ∧
    (∀ s ∈ d.tokens, s.text ≠ [] ∧ s.id ≠ SymbolId.unresolved ∧ ∃ r ∈ t.rules, r.id = s.id) ∧
    d.popped ++ t.queue = d.tokens ∧
    ∀ r, Runs t r →
      r.tokenizer.queue = (t.emit r.pieces).queue ∧
      r.tokenizer.reports = (t.emit r.pieces).reports ∧
      (∀ n, r.outcome = .ok n → r.tokenizer.queue.length = t.queue.length + n) ∧
      ∀ e, r.outcome = .error e → e.category = .exhausted →
        (∀ (source : σ) (most : Nat), (Source.pull source most).result ≠ .error e) →
        r.tokenizer.resolution = ⟨[], .error e⟩ := by
  obtain ⟨hsound, htexts⟩ := h.conserve
  have haccounted := h.accounted
  refine ⟨htexts, ?_, haccounted.queue, ?_⟩
  · intro s hs
    obtain ⟨hne, hid⟩ := haccounted.yield s hs
    obtain ⟨r, hr, hrid⟩ := List.mem_map.1 hid
    exact ⟨hne, hrid ▸ haccounted.resolved r hr, r, hr, hrid⟩
  · intro r hrun
    have hqueue := hrun.emits.queue
    refine ⟨hqueue, hrun.emits.reports, ?_, fun e he hc hs => hrun.exhausted hsound he hc hs⟩
    intro n hn
    rw [hqueue, List.length_append, ← hrun.tokenCount_eq hn]
    rfl

end Lawful

/-- With room for four characters the second run in a row is refused the text that the first one has
left pending; what was emitted before stays emitted, and nothing is emitted again. -/
theorem text_conserved_after_refusal :
    let calls : List (Call CharSource) := [.register (.literal "abc".toList) 7, .listen "log".toList,
      .bind ⟨"zabcxyabc".toList⟩, .run, .pop]
    let state := replay { sizes := ⟨4, 4, by decide, by decide⟩ } calls
    state.2.intake = "zabcxyab".toList ∧ state.1.buffer = "xyab".toList ∧
      Piece.texts state.2.pieces ++ state.1.buffer = state.2.intake ∧
      state.1.run.outcome = .error (Cause.longPartial 4) ∧
      state.1.run.tokenizer.resolution = ⟨[], .error (Cause.longPartial 4)⟩ := by
  intro calls state
  have hhistory : History { sizes := ⟨4, 4, by decide, by decide⟩ } calls state.1 state.2 :=
    history_iff.2 rfl
  obtain ⟨htexts, -, -, hruns⟩ := text_conserved hhistory
  have houtcome : state.1.run.outcome = .error (Cause.longPartial 4) := by decide +kernel
  obtain ⟨-, -, -, hexhausted⟩ := hruns state.1.run (runs_iff.2 rfl)
  refine ⟨by decide +kernel, by decide +kernel, htexts, houtcome, ?_⟩
  exact hexhausted _ houtcome rfl fun source most h => by cases h

end Thicket.Tokenizer
