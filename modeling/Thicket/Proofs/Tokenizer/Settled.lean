import Thicket.Proofs.Tokenizer.Conservation

/-!
# What a run leaves pending

A tokenizer is settled if its buffer is empty, or has room and is the beginning of a match for the
first rule that gives an answer. A run that succeeds leaves a tokenizer settled, unless the head counts
nothing and the source has nothing to give (`Runs.settled_iff`): such a run does not look at the
buffer, and leaves what a failing pull may have put there.
-/

namespace Thicket

/-- What is carried over is the beginning of a match, and fits. -/
theorem resolveSegments_carried {capacity : Nat} {rules : List Rule} {work : List Segment}
    {carried : Text} (h : (resolveSegments capacity rules work).carried = .ok carried) :
    carried = [] ∨
      carried.length < capacity ∧ Rule.firstAnswer? rules true carried = some .begun := by
  fun_induction resolveSegments capacity rules work with
  | case1 =>
    cases h
    exact .inl rfl
  | case2 s work ih => exact ih h
  | case3 work ih => exact ih h
  | case4 c rest work cut id answer ih => exact ih h
  | case5 => cases h
  | case6 c rest work answer hshort =>
    cases h
    rw [Rule.firstAnswer?_begun answer] at answer
    exact .inr ⟨Nat.lt_of_not_le hshort, answer⟩
  | case7 c rest work answer ih => exact ih h

namespace Tokenizer

variable {σ : Type}

/-- Nothing is left in the buffer that could be resolved: it is empty, or it has room and the first rule
that gives an answer on it says that a match may have begun. -/
def Settled (t : Tokenizer σ) : Prop :=
  t.buffer = [] ∨
    t.buffer.length < t.sizes.capacity ∧ Rule.firstAnswer? t.rules true t.buffer = some .begun

instance (answer : Option Answer) : Decidable (answer = some .begun) :=
  match answer with
  | some .begun => .isTrue rfl
  | some (.full ..) => .isFalse (by simp)
  | none => .isFalse (by simp)

instance (t : Tokenizer σ) : Decidable t.Settled := inferInstanceAs (Decidable (_ ∨ _ ∧ _))

/-- Only buffer, capacity and rules count. -/
theorem settled_congr {t t' : Tokenizer σ} (hbuffer : t'.buffer = t.buffer)
    (hsizes : t'.sizes = t.sizes) (hrules : t'.rules = t.rules) : t'.Settled ↔ t.Settled := by
  unfold Settled
  rw [hbuffer, hsizes, hrules]

/-- If the head counts the buffer and comes to nothing, there is nothing in the buffer. -/
theorem Sound.settled_of_head {t : Tokenizer σ} (ht : t.Sound) (hhead : t.head = 0) : t.Settled := by
  have hlength := ht.head_eq
  rw [hhead] at hlength
  exact .inl (List.eq_nil_of_length_eq_zero hlength.symm)

/-! ## One round -/

theorem settled_of_settle {t t' : Tokenizer σ} {pieces : List Piece} (hhead : 0 < t.head)
    (h : t.settle = (pieces, none, t')) : t'.Settled := by
  obtain ⟨hzero, -⟩ | ⟨text, hcarried, hsettle⟩ | ⟨e, -, hsettle⟩ := settle_cases t
  · omega
  · rw [hsettle] at h
    cases h
    exact resolveSegments_carried hcarried
  · rw [hsettle] at h
    cases h

theorem settle_of_head {t : Tokenizer σ} (hhead : t.head = 0) : t.settle = ([], none, t) := by
  unfold settle
  apply if_neg
  omega

variable [Source σ]

/-- A round that pulls nothing leaves what it has settled. -/
theorem cycle_ended [CountingSource σ] {t : Tokenizer σ} {source : σ}
    (h : (t.cycle source).pulled = .ok 0) :
    ∃ pieces t', t.settle = (pieces, none, t') ∧ (t.cycle source).intake = [] ∧
      ((t.cycle source).tokenizer.Settled ↔ t'.Settled) := by
  obtain ⟨pieces, t', hsettle, -, hresult, heq⟩ := cycle_of_ok h
  have hlength := CountingSource.length_text_of_ok source t'.request 0 hresult
  have htext := List.eq_nil_of_length_eq_zero hlength
  rw [heq, htext]
  refine ⟨pieces, t', hsettle, rfl, ?_⟩
  apply settled_congr
  · show t'.buffer ++ [] = t'.buffer
    rw [List.append_nil]
  · rfl
  · rfl

/-- After a round that pulls something, the head counts it. -/
theorem cycle_pulled [CountingSource σ] {t : Tokenizer σ} {source : σ} {count : Nat}
    (h : (t.cycle source).pulled = .ok (count + 1)) :
    0 < (t.cycle source).tokenizer.head ∧ (t.cycle source).intake ≠ [] := by
  obtain ⟨pieces, t', -, -, hresult, heq⟩ := cycle_of_ok h
  have hlength := CountingSource.length_text_of_ok source t'.request (count + 1) hresult
  rw [heq]
  constructor
  · show 0 < t'.head + (count + 1)
    omega
  · show (Source.pull source t'.request).text ≠ []
    apply List.ne_nil_of_length_pos
    omega

/-! ## Runs -/

/-- A run that succeeds leaves a tokenizer settled, unless the head counts nothing and the run takes
nothing in; then the buffer is left as it is. -/
theorem Drains.settled_iff [CountingSource σ] {t : Tokenizer σ} {source : σ} {r : Run σ}
    (h : Drains t source r) {n : Nat} (hok : r.outcome = .ok n) :
    r.tokenizer.Settled ↔ (t.head = 0 → r.intake = [] → t.Settled) := by
  induction h generalizing n with
  | failed => cases hok
  | @ended t source hpulled =>
    obtain ⟨pieces, t', hsettle, hintake, hsettled⟩ := cycle_ended hpulled
    show (t.cycle source).tokenizer.Settled ↔ (t.head = 0 → (t.cycle source).intake = [] → t.Settled)
    rw [hsettled]
    by_cases hhead : t.head = 0
    · -- the only round did not look at the buffer
      rw [settle_of_head hhead] at hsettle
      cases hsettle
      exact ⟨fun h _ _ => h, fun h => h hhead hintake⟩
    · have ht' := settled_of_settle (Nat.pos_of_ne_zero hhead) hsettle
      exact iff_of_true ht' fun hzero => absurd hzero hhead
  | @again t source count later hpulled _ ih =>
    obtain ⟨m, hm, -⟩ := Run.outcome_after hok
    -- the head now counts what was pulled, so the rest of the run does look at the buffer
    obtain ⟨hhead, hintake⟩ := cycle_pulled hpulled
    have hlater : later.tokenizer.Settled :=
      (ih hm).2 fun hzero => absurd hzero (Nat.ne_of_gt hhead)
    refine iff_of_true hlater ?_
    intro _ hnil
    rw [Run.intake_after, List.append_eq_nil_iff] at hnil
    exact absurd hnil.1 hintake

theorem Runs.settled_iff [CountingSource σ] {t : Tokenizer σ} {r : Run σ} (h : Runs t r)
    (hrules : t.rules ≠ []) {n : Nat} (hok : r.outcome = .ok n) :
    r.tokenizer.Settled ↔ (t.head = 0 → r.intake = [] → t.Settled) := by
  cases h with
  | idle hnone => exact absurd hnone hrules
  | unbound => cases hok
  | drains _ _ hdrains => exact hdrains.settled_iff hok

/-! ## Histories without failures of the input -/

section Input

variable [CountingSource σ] [InputSource σ]

/-- A round keeps the head right, unless reading the input fails. -/
theorem Sound.cycle_of_not_input {t : Tokenizer σ} (ht : t.Sound) {source : σ}
    (h : ∀ e, (t.cycle source).pulled = .error e → e.category ≠ .input) :
    (t.cycle source).tokenizer.Sound := by
  obtain ⟨pieces, e, t', hsettle, heq⟩ | ⟨pieces, t', hsettle, hroom, heq⟩ :=
    cycle_cases t source <;> rw [heq] at h ⊢
  · obtain ⟨-, rfl, -⟩ := ht.settle_error hsettle
    exact ht
  · cases hresult : (Source.pull source t'.request).result with
    | ok count => exact (ht.settle hsettle).receive_ok hroom hresult
    | error e => exact absurd (InputSource.category_of_error source t'.request e hresult) (h e hresult)

theorem Drains.sound {t : Tokenizer σ} {source : σ} {r : Run σ} (h : Drains t source r)
    (ht : t.Sound) (hinput : ∀ e, r.outcome = .error e → e.category ≠ .input) :
    r.tokenizer.Sound := by
  induction h with
  | @failed t source e hpulled =>
    have hsound : (t.cycle source).tokenizer.Sound := by
      apply ht.cycle_of_not_input
      intro e' he'
      rw [hpulled] at he'
      cases he'
      exact hinput e rfl
    exact ⟨hsound.head_eq, hsound.fits⟩
  | @ended t source hpulled =>
    have hsound : (t.cycle source).tokenizer.Sound := by
      apply ht.cycle_of_not_input
      intro e he
      rw [hpulled] at he
      cases he
    exact ⟨hsound.head_eq, hsound.fits⟩
  | @again t source count later hpulled _ ih =>
    apply ih
    · apply ht.cycle_of_not_input
      intro e he
      rw [hpulled] at he
      cases he
    · intro e he
      apply hinput
      unfold Run.after
      rw [he]
      rfl

theorem Runs.sound {t : Tokenizer σ} {r : Run σ} (h : Runs t r) (ht : t.Sound)
    (hinput : ∀ e, r.outcome = .error e → e.category ≠ .input) : r.tokenizer.Sound := by
  cases h with
  | idle => exact ht
  | unbound => exact ht
  | drains _ _ hdrains => exact hdrains.sound ht hinput

theorem Call.Does.sound {t t' : Tokenizer σ} {d d' : Record σ} {c : Call σ} (h : c.Does t d t' d')
    (ht : t.Sound) (hinput : ∀ r ∈ d'.runs, ∀ e, r.outcome = .error e → e.category ≠ .input) :
    t'.Sound := by
  rcases h.run_or_same with ⟨r, hrun, rfl, rfl⟩ | ⟨hbuffer, hhead, hsizes, -⟩
  · exact hrun.sound ht (hinput r (List.mem_append_right _ List.mem_cons_self))
  · exact ht.congr hbuffer hhead hsizes

omit [CountingSource σ] [InputSource σ] in
theorem Call.Does.runs_subset {t t' : Tokenizer σ} {d d' : Record σ} {c : Call σ}
    (h : c.Does t d t' d') : d.runs ⊆ d'.runs := by
  rcases h.run_or_same with ⟨r, -, -, rfl⟩ | ⟨-, -, -, hruns⟩
  · exact List.subset_append_left _ _
  · rw [hruns]
    exact List.Subset.refl _

/-- As long as no run fails to read the input, the head counts the buffer. -/
theorem History.sound {sizes : BufferSizes} {calls : List (Call σ)} {t : Tokenizer σ} {d : Record σ}
    (h : History { sizes } calls t d)
    (hinput : ∀ r ∈ d.runs, ∀ e, r.outcome = .error e → e.category ≠ .input) : t.Sound := by
  induction h with
  | start => exact sound_mk sizes
  | call _ does ih => exact does.sound (ih fun r hr => hinput r (does.runs_subset hr)) hinput

/-- A run that succeeds leaves nothing behind that could be resolved, in every history, unless the head
counted nothing and the run took nothing in: then what was in the buffer is in it still. Only a history
with a run that has failed to read the input comes to such a buffer. -/
theorem settled_after_run {sizes : BufferSizes} {calls : List (Call σ)} {t : Tokenizer σ}
    {d : Record σ} (h : History { sizes } calls t d) (hrules : t.rules ≠ []) {r : Run σ}
    (hrun : Runs t r) {n : Nat} (hok : r.outcome = .ok n) :
    (r.tokenizer.Settled ↔ (t.head = 0 → r.intake = [] → t.Settled)) ∧
    ((∀ r' ∈ d.runs, ∀ e, r'.outcome = .error e → e.category ≠ .input) → r.tokenizer.Settled) := by
  have hiff := hrun.settled_iff hrules hok
  refine ⟨hiff, ?_⟩
  intro hinput
  apply hiff.2
  intro hhead _
  exact (h.sound hinput).settled_of_head hhead

end Input

/-- The beginning of a match that one source has left is completed by the next, and what is left then is
the beginning of another. -/
theorem settled_after_run_two_sources :
    let calls : List (Call (CharSource ⊕ LineSource)) := [.register (.literal ['a', 'b']) 1,
      .bind (.inl ⟨['x', 'a']⟩), .run, .bind (.inr (.ofReader ⟨[], [.bytes [0x62, 0x61]]⟩))]
    let state := replay {} calls
    state.1.run.tokenizer.buffer = ['a'] ∧ state.1.run.tokenizer.Settled := by
  intro calls state
  have hhistory : History {} calls state.1 state.2 := history_iff.2 rfl
  have hrules : state.1.rules ≠ [] := List.ne_nil_of_length_pos (by decide +kernel)
  have hok : state.1.run.outcome.isOk = true := by decide +kernel
  have hall : ∀ r ∈ state.2.runs, r.outcome.isOk = true := by decide +kernel
  obtain ⟨n, hn⟩ := Run.exists_outcome hok
  refine ⟨by decide +kernel, ?_⟩
  apply (settled_after_run hhistory hrules (runs_iff.2 rfl) hn).2
  intro r hr e he
  have hsuccess := hall r hr
  rw [he] at hsuccess
  cases hsuccess

/-- The pipe breaks behind a line that is a token: the line is in the buffer, but the head does not count
it. The next run finds nothing to pull and succeeds, and the token is not queued. -/
theorem unsettled_after_broken_pipe :
    let calls : List (Call LineSource) := [.register (.literal ['a', 'b']) 1,
      .bind (.ofReader ⟨[], [.bytes [0x61, 0x62, 0x0A], .failure .brokenPipe]⟩), .run]
    let state := replay {} calls
    state.1.rules.length = 1 ∧ state.1.run.outcome.toOption = some 0 ∧
      state.1.run.tokenizer.queue = [] ∧ ¬ state.1.run.tokenizer.Settled := by
  decide +kernel

end Tokenizer

end Thicket
