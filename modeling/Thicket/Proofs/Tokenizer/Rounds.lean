import Thicket.Proofs.Tokenizer.Pieces
import Thicket.Tokenizer.Run

/-!
# Rounds and runs

What one round of a run can do is said once, in `settle_cases` and `cycle_cases`; what holds of whole
runs follows from it round by round.

A run need not end: over a source without end it goes on forever. `Runs t r` says of a source of any
kind that a run of `t` ends and does what `r` says. Over a finite source this is the function `run`
(`runs_iff`).
-/

namespace Thicket.Tokenizer

variable {σ : Type}

/-! ## What a round can do -/

/-- What the buffer resolves to. -/
abbrev resolution (t : Tokenizer σ) : Resolution := resolveText t.sizes.capacity t.rules t.buffer

/-- Settling leaves a tokenizer as it is if nothing is accounted for; else the buffer is resolved, and
stays as it is if that fails. -/
theorem settle_cases (t : Tokenizer σ) :
    t.head = 0 ∧ t.settle = ([], none, t) ∨
    (∃ text, t.resolution.carried = .ok text ∧ t.settle = (t.resolution.pieces, none,
      { t.emit t.resolution.pieces with buffer := text, head := text.length })) ∨
    ∃ e, t.resolution.carried = .error e ∧
      t.settle = (t.resolution.pieces, some e, t.emit t.resolution.pieces) := by
  unfold settle
  split
  · right
    cases hcarried : t.resolution.carried with
    | ok text => exact .inl ⟨text, rfl, by simp only [resolve, hcarried]⟩
    | error e => exact .inr ⟨e, rfl, by simp only [resolve, hcarried]⟩
  · next hhead => exact .inl ⟨by omega, rfl⟩

/-- A tokenizer that has settled has room, whatever it was before. -/
theorem head_lt_of_settle {t t' : Tokenizer σ} {pieces : List Piece}
    (h : t.settle = (pieces, none, t')) : t'.head < t'.sizes.capacity := by
  obtain ⟨hhead, hsettle⟩ | ⟨text, hcarried, hsettle⟩ | ⟨e, -, hsettle⟩ := settle_cases t <;>
    rw [hsettle] at h <;> cases h
  · rw [hhead]
    exact t.sizes.capacity_pos
  · obtain ⟨-, rfl | hshort⟩ := resolveText_texts hcarried
    · exact t.sizes.capacity_pos
    · exact hshort

/-- Where there is room, something is asked for. -/
theorem request_pos {t : Tokenizer σ} (hroom : t.head < t.sizes.capacity) : 0 < t.request := by
  have hpull := t.sizes.pull_pos
  unfold request
  omega

/-- Settling fails only because too much would have to be carried over. -/
theorem eq_longPartial_of_settle {t t' : Tokenizer σ} {pieces : List Piece} {e : Fault}
    (h : t.settle = (pieces, some e, t')) : e = Cause.longPartial t.sizes.capacity := by
  obtain ⟨-, hsettle⟩ | ⟨text, -, hsettle⟩ | ⟨e', hcarried, hsettle⟩ := settle_cases t <;>
    rw [hsettle] at h <;> cases h
  exact resolveText_error hcarried

/-- A round that has settled pulls: it does not find the buffer full. -/
theorem cycle_of_settle [Source σ] {t t' : Tokenizer σ} {pieces : List Piece}
    (h : t.settle = (pieces, none, t')) (source : σ) :
    t.cycle source = ⟨pieces, (Source.pull source t'.request).text,
      (Source.pull source t'.request).result,
      t'.receive (Source.pull source t'.request).text (Source.pull source t'.request).result,
      (Source.pull source t'.request).source⟩ := by
  have hroom : ¬ t'.sizes.capacity ≤ t'.head := Nat.not_le_of_lt (head_lt_of_settle h)
  unfold cycle
  rw [h]
  exact if_neg hroom

/-- A round fails to settle, or pulls. -/
theorem cycle_cases [Source σ] (t : Tokenizer σ) (source : σ) :
    (∃ pieces e t', t.settle = (pieces, some e, t') ∧
      t.cycle source = ⟨pieces, [], .error e, t', source⟩) ∨
    ∃ pieces t', t.settle = (pieces, none, t') ∧ t'.head < t'.sizes.capacity ∧
      t.cycle source = ⟨pieces, (Source.pull source t'.request).text,
        (Source.pull source t'.request).result,
        t'.receive (Source.pull source t'.request).text (Source.pull source t'.request).result,
        (Source.pull source t'.request).source⟩ := by
  rcases hsettle : t.settle with ⟨pieces, _ | e, t'⟩
  · exact .inr ⟨pieces, t', rfl, head_lt_of_settle hsettle, cycle_of_settle hsettle source⟩
  · refine .inl ⟨pieces, e, t', rfl, ?_⟩
    unfold cycle
    rw [hsettle]

/-- A round that succeeds has settled, and has pulled into the room that there is. -/
theorem cycle_of_ok [Source σ] {t : Tokenizer σ} {source : σ} {n : Nat}
    (h : (t.cycle source).pulled = .ok n) :
    ∃ pieces t', t.settle = (pieces, none, t') ∧ t'.head < t'.sizes.capacity ∧
      (Source.pull source t'.request).result = .ok n ∧
      t.cycle source = ⟨pieces, (Source.pull source t'.request).text, .ok n,
        t'.receive (Source.pull source t'.request).text (.ok n),
        (Source.pull source t'.request).source⟩ := by
  obtain ⟨pieces, e, t', -, heq⟩ | ⟨pieces, t', hsettle, hroom, heq⟩ :=
    cycle_cases t source <;> rw [heq] at h
  · cases h
  · have hresult : (Source.pull source t'.request).result = .ok n := h
    rw [hresult] at heq
    exact ⟨pieces, t', hsettle, hroom, hresult, heq⟩

/-! ## What is emitted -/

/-- From `t` to `t'` just the given pieces were emitted: the tokens were queued and the dropped texts
reported, the tokens are such as the rules can have made, and the set-up is the same. Buffer and source
are not spoken of. -/
structure Emits (t : Tokenizer σ) (pieces : List Piece) (t' : Tokenizer σ) : Prop where
  sizes : t'.sizes = t.sizes
  rules : t'.rules = t.rules
  listener : t'.listener = t.listener
  queue : t'.queue = t.queue ++ Piece.tokens pieces
  reports : t'.reports = (t.emit pieces).reports
  yield : ∀ s ∈ Piece.tokens pieces, Rule.Yield t.rules s

theorem Emits.nil {t t' : Tokenizer σ} (hsizes : t'.sizes = t.sizes) (hrules : t'.rules = t.rules)
    (hlistener : t'.listener = t.listener) (hqueue : t'.queue = t.queue)
    (hreports : t'.reports = t.reports) : t.Emits [] t' where
  sizes := hsizes
  rules := hrules
  listener := hlistener
  queue := by simp [hqueue]
  reports := by cases hl : t.listener <;> simp [emit, hl, hreports]
  yield := by simp

theorem Emits.refl (t : Tokenizer σ) : t.Emits [] t := .nil rfl rfl rfl rfl rfl

theorem Emits.trans {t t' t'' : Tokenizer σ} {a b : List Piece} (h : t.Emits a t')
    (h' : t'.Emits b t'') : t.Emits (a ++ b) t'' where
  sizes := h'.sizes.trans h.sizes
  rules := h'.rules.trans h.rules
  listener := h'.listener.trans h.listener
  queue := by rw [h'.queue, h.queue, Piece.tokens_append, List.append_assoc]
  reports := by
    rw [h'.reports]
    cases hl : t.listener <;> simp [emit, h.listener, h.reports, hl, List.filterMap_append]
  yield := by
    intro s hs
    rw [Piece.tokens_append, List.mem_append] at hs
    rcases hs with hs | hs
    · exact h.yield s hs
    · rw [← h.rules]
      exact h'.yield s hs

theorem Emits.bind {t t' : Tokenizer σ} {pieces : List Piece} (h : t.Emits pieces t') (source : σ) :
    t.Emits pieces (t'.bind source) where
  sizes := h.sizes
  rules := h.rules
  listener := h.listener
  queue := h.queue
  reports := h.reports
  yield := h.yield

theorem settle_emits (t : Tokenizer σ) : t.Emits t.settle.1 t.settle.2.2 := by
  obtain ⟨-, h⟩ | ⟨text, -, h⟩ | ⟨e, -, h⟩ := settle_cases t <;> rw [h]
  · exact .refl t
  · exact ⟨rfl, rfl, rfl, rfl, rfl, resolveText_yield⟩
  · exact ⟨rfl, rfl, rfl, rfl, rfl, resolveText_yield⟩

/-- A round emits its pieces, whatever the source does. -/
theorem cycle_emits [Source σ] (t : Tokenizer σ) (source : σ) :
    t.Emits (t.cycle source).pieces (t.cycle source).tokenizer := by
  have hemits := t.settle_emits
  obtain ⟨pieces, e, t', hsettle, h⟩ | ⟨pieces, t', hsettle, -, h⟩ :=
    cycle_cases t source <;> rw [hsettle] at hemits <;> rw [h]
  · exact hemits
  · -- receiving text touches buffer and head only
    have hreceive : t'.Emits [] (t'.receive (Source.pull source t'.request).text
        (Source.pull source t'.request).result) := .nil rfl rfl rfl rfl rfl
    have := hemits.trans hreceive
    rwa [List.append_nil] at this

/-! ## A run and the round before it -/

@[simp] theorem Run.pieces_after (later : Run σ) (c : Cycle σ) :
    (later.after c).pieces = c.pieces ++ later.pieces := rfl

@[simp] theorem Run.intake_after (later : Run σ) (c : Cycle σ) :
    (later.after c).intake = c.intake ++ later.intake := rfl

@[simp] theorem Run.tokenizer_after (later : Run σ) (c : Cycle σ) :
    (later.after c).tokenizer = later.tokenizer := rfl

/-- A run succeeds if what comes after its first round does. -/
theorem Run.outcome_after {later : Run σ} {c : Cycle σ} {n : Nat}
    (h : (later.after c).outcome = .ok n) :
    ∃ m, later.outcome = .ok m ∧ tokenCount c.pieces + m = n := by
  unfold after at h
  cases hlater : later.outcome with
  | error e => rw [hlater] at h; cases h
  | ok m => rw [hlater] at h; cases h; exact ⟨m, rfl, rfl⟩

/-- A run fails as what comes after its first round does. -/
theorem Run.outcome_after_error {later : Run σ} {c : Cycle σ} {e : Fault}
    (h : (later.after c).outcome = .error e) : later.outcome = .error e := by
  unfold after at h
  cases hlater : later.outcome with
  | error e' => rw [hlater] at h; cases h; rfl
  | ok m => rw [hlater] at h; cases h

theorem Run.exists_outcome {r : Run σ} (h : r.outcome.isOk = true) : ∃ n, r.outcome = .ok n := by
  cases houtcome : r.outcome with
  | ok n => exact ⟨n, rfl⟩
  | error e =>
    rw [houtcome] at h
    cases h

/-! ## Runs over sources of any kind -/

section Source

variable [Source σ]

/-- Running `t` over a source comes to an end and does what the run says. -/
inductive Drains : Tokenizer σ → σ → Run σ → Prop
  | failed {t : Tokenizer σ} {source : σ} {e : Fault} (h : (t.cycle source).pulled = .error e) :
      Drains t source ((t.cycle source).finish (.error e))
  | ended {t : Tokenizer σ} {source : σ} (h : (t.cycle source).pulled = .ok 0) :
      Drains t source ((t.cycle source).finish (.ok (tokenCount (t.cycle source).pieces)))
  | again {t : Tokenizer σ} {source : σ} {count : Nat} {later : Run σ}
      (h : (t.cycle source).pulled = .ok (count + 1))
      (hlater : Drains (t.cycle source).tokenizer (t.cycle source).source later) :
      Drains t source (later.after (t.cycle source))

/-- A run of `t` comes to an end and does what `r` says. -/
inductive Runs (t : Tokenizer σ) : Run σ → Prop
  | idle (h : t.rules = []) : Runs t ⟨[], [], .ok 0, t⟩
  | unbound (h : t.rules ≠ []) (hsource : t.source = none) :
      Runs t ⟨[], [], .error Cause.noSource, t⟩
  | drains {source : σ} {r : Run σ} (h : t.rules ≠ []) (hsource : t.source = some source)
      (hdrains : Drains t source r) : Runs t r

theorem Drains.unique {t : Tokenizer σ} {source : σ} {r r' : Run σ} (h : Drains t source r)
    (h' : Drains t source r') : r = r' := by
  induction h generalizing r' with
  | failed hpulled => cases h' <;> simp_all
  | ended hpulled => cases h' <;> simp_all
  | again hpulled _ ih =>
    cases h' with
    | failed hpulled' => simp_all
    | ended hpulled' => simp_all
    | again _ hlater' => rw [ih hlater']

theorem Runs.unique {t : Tokenizer σ} {r r' : Run σ} (h : Runs t r) (h' : Runs t r') : r = r' := by
  cases h <;> cases h' <;> simp_all
  next _ hdrains _ _ hdrains' => exact hdrains.unique hdrains'

theorem Drains.emits {t : Tokenizer σ} {source : σ} {r : Run σ} (h : Drains t source r) :
    t.Emits r.pieces r.tokenizer := by
  induction h with
  | failed => exact (cycle_emits _ _).bind _
  | ended => exact (cycle_emits _ _).bind _
  | again _ _ ih => exact (cycle_emits _ _).trans ih

/-- A run emits its pieces, however it ends. -/
theorem Runs.emits {t : Tokenizer σ} {r : Run σ} (h : Runs t r) : t.Emits r.pieces r.tokenizer := by
  cases h with
  | idle => exact .refl t
  | unbound => exact .refl t
  | drains _ _ hdrains => exact hdrains.emits

theorem Drains.tokenCount_eq {t : Tokenizer σ} {source : σ} {r : Run σ} (h : Drains t source r)
    {n : Nat} (hok : r.outcome = .ok n) : tokenCount r.pieces = n := by
  induction h generalizing n with
  | failed => cases hok
  | ended => cases hok; rfl
  | again _ _ ih =>
    obtain ⟨m, hm, rfl⟩ := Run.outcome_after hok
    rw [← ih hm, Run.pieces_after]
    simp only [tokenCount, List.filterMap_append, List.length_append]

/-- A run that succeeds tells how many tokens it emitted. -/
theorem Runs.tokenCount_eq {t : Tokenizer σ} {r : Run σ} (h : Runs t r) {n : Nat}
    (hok : r.outcome = .ok n) : tokenCount r.pieces = n := by
  cases h with
  | idle => cases hok; rfl
  | unbound => cases hok
  | drains _ _ hdrains => exact hdrains.tokenCount_eq hok

end Source

/-! ## Runs over finite sources -/

theorem drains_drain [FiniteSource σ] (t : Tokenizer σ) (source : σ) :
    Drains t source (t.drain source) := by
  fun_induction drain t source with
  | case1 t source c e hpulled => exact .failed hpulled
  | case2 t source c hpulled => exact .ended hpulled
  | case3 t source c count hpulled ih => exact .again hpulled ih

/-- Over a finite source every run ends, and does what the function says. -/
theorem runs_iff [FiniteSource σ] {t : Tokenizer σ} {r : Run σ} : Runs t r ↔ r = t.run := by
  have hrun : Runs t t.run := by
    unfold run
    split
    · next h => exact .idle (List.isEmpty_iff.1 h)
    · next h =>
      rw [List.isEmpty_iff] at h
      split
      · next hsource => exact .unbound h hsource
      · next source hsource => exact .drains h hsource (drains_drain t source)
  exact ⟨fun h => h.unique hrun, fun h => h ▸ hrun⟩

end Thicket.Tokenizer
