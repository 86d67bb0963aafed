import Thicket.Proofs.Tokenizer.Conservation

/-!
# Text after failures of the input

A pull that fails may have appended text, which the head then does not count. So the buffer can come to
hold more than its capacity, and a resolution can be refused after it has emitted pieces. The text of
these pieces stays in the buffer, and later runs come to it again.

This is all that can go wrong, whatever the source does: no text is lost, and what is emitted and
pending is longer than what was taken in by just the pieces of refused resolutions (`text_recovered`).
-/

namespace Thicket.Tokenizer

variable {σ : Type}

/-- The pieces that a run emitted in a resolution that was refused in the end. Their text is still
pending. -/
def Run.refused (r : Run σ) : List Piece :=
  match r.outcome with
  | .ok _ => []
  | .error e => if e.category = .exhausted then r.tokenizer.resolution.pieces else []

/-- The pieces of all refused resolutions. -/
def Record.refused (d : Record σ) : List Piece := d.runs.flatMap Run.refused

@[simp] theorem Record.refused_addRun (d : Record σ) (r : Run σ) :
    (d.addRun r).refused = d.refused ++ r.refused := by
  simp [refused, addRun, List.flatMap_append]

/-! ## One round -/

/-- If settling fails, the text of the pieces stays in the buffer. -/
theorem settle_refused {t t' : Tokenizer σ} {pieces : List Piece} {e : Fault}
    (h : t.settle = (pieces, some e, t')) :
    e.category = .exhausted ∧ t'.resolution = t.resolution ∧ pieces = t.resolution.pieces ∧
      t.resolution.carried = .error e ∧ t'.buffer = t.buffer := by
  have hcause := eq_longPartial_of_settle h
  obtain ⟨-, hsettle⟩ | ⟨text, -, hsettle⟩ | ⟨e', hcarried, hsettle⟩ := settle_cases t <;>
    rw [hsettle] at h <;> cases h
  exact ⟨by rw [hcause]; rfl, rfl, rfl, hcarried, rfl⟩

variable [Source σ]

/-- A round moves text from the buffer and the source into pieces, or it is refused a resolution and
leaves the buffer as it is. -/
theorem texts_cycle [InputSource σ] (t : Tokenizer σ) (source : σ) :
    Piece.texts (t.cycle source).pieces ++ (t.cycle source).tokenizer.buffer =
        t.buffer ++ (t.cycle source).intake ∧
      (∀ e, (t.cycle source).pulled = .error e → e.category ≠ .exhausted) ∨
    ∃ e, (t.cycle source).pulled = .error e ∧ e.category = .exhausted ∧
      (t.cycle source).tokenizer.resolution.carried = .error e ∧
      (t.cycle source).pieces = (t.cycle source).tokenizer.resolution.pieces ∧
      (t.cycle source).tokenizer.buffer = t.buffer ++ (t.cycle source).intake := by
  obtain ⟨pieces, e, t', hsettle, h⟩ | ⟨pieces, t', hsettle, -, h⟩ :=
    cycle_cases t source <;> rw [h]
  · right
    obtain ⟨hcategory, hresolution, hpieces, hcarried, hbuffer⟩ := settle_refused hsettle
    refine ⟨e, rfl, hcategory, ?_, ?_, ?_⟩
    · rw [hresolution, hcarried]
    · rw [hresolution, hpieces]
    · rw [hbuffer, List.append_nil]
  · left
    refine ⟨texts_receive hsettle _ _, ?_⟩
    intro e he
    rw [InputSource.category_of_error source t'.request e he]
    exact FaultCategory.noConfusion

/-! ## Runs -/

omit [Source σ] in
theorem Run.refused_of_ok {r : Run σ} {n : Nat} (h : r.outcome = .ok n) : r.refused = [] := by
  unfold refused
  rw [h]

omit [Source σ] in
theorem Run.refused_of_error {r : Run σ} {e : Fault} (h : r.outcome = .error e) :
    r.refused = if e.category = .exhausted then r.tokenizer.resolution.pieces else [] := by
  unfold refused
  rw [h]

omit [Source σ] in
theorem Run.refused_after (later : Run σ) (c : Cycle σ) : (later.after c).refused = later.refused := by
  unfold refused after
  cases later.outcome <;> rfl

omit [Source σ] in
theorem Run.text_ne_nil_of_mem_refused {r : Run σ} {p : Piece} (h : p ∈ r.refused) : p.text ≠ [] := by
  unfold refused at h
  split at h
  · cases h
  · split at h
    · exact resolveText_pieces_ne_nil p h
    · cases h

/-- What a run has done with the text. The pieces that were refused come last, and there are some only
if the buffer holds more than its capacity. -/
structure Run.Recovers (t : Tokenizer σ) (r : Run σ) : Prop where
  kept : ∃ kept, r.pieces = kept ++ r.refused ∧
    Piece.texts kept ++ r.tokenizer.buffer = t.buffer ++ r.intake
  overflow : r.refused ≠ [] → r.tokenizer.sizes.capacity < r.tokenizer.buffer.length

omit [Source σ] in
/-- Nothing was refused. -/
theorem Run.Recovers.of_refused_eq_nil {t : Tokenizer σ} {r : Run σ} (hrefused : r.refused = [])
    (htexts : Piece.texts r.pieces ++ r.tokenizer.buffer = t.buffer ++ r.intake) : Recovers t r where
  kept := ⟨r.pieces, by rw [hrefused, List.append_nil], htexts⟩
  overflow h := absurd hrefused h

theorem Drains.recovers [InputSource σ] {t : Tokenizer σ} {source : σ} {r : Run σ}
    (h : Drains t source r) : Run.Recovers t r := by
  induction h with
  | @failed t source e hpulled =>
    rcases texts_cycle t source with ⟨htexts, hinput⟩ |
      ⟨e', he', hcategory, hcarried, hpieces, hbuffer⟩
    · apply Run.Recovers.of_refused_eq_nil
      · rw [Run.refused_of_error rfl, if_neg (hinput e hpulled)]
      · exact htexts
    · -- the pieces of the round are those of the resolution that was refused
      rw [hpulled] at he'
      cases he'
      have hrefused : ((t.cycle source).finish (.error e)).refused = (t.cycle source).pieces := by
        rw [Run.refused_of_error rfl, if_pos hcategory]
        exact hpieces.symm
      refine ⟨⟨[], ?_, hbuffer⟩, ?_⟩
      · rw [hrefused]
        rfl
      · intro hne
        apply Nat.lt_of_not_le
        intro hfits
        have hnone := congrArg Resolution.pieces (resolveText_refused hfits hcarried)
        exact hne ((hrefused.trans hpieces).trans hnone)
  | @ended t source hpulled =>
    apply Run.Recovers.of_refused_eq_nil (Run.refused_of_ok rfl)
    rcases texts_cycle t source with ⟨htexts, -⟩ | ⟨e, he, -⟩
    · exact htexts
    · rw [hpulled] at he
      cases he
  | @again t source count later hpulled _ ih =>
    obtain ⟨kept, hpieces, hkept⟩ := ih.kept
    rcases texts_cycle t source with ⟨htexts, -⟩ | ⟨e, he, -⟩
    · refine ⟨⟨(t.cycle source).pieces ++ kept, ?_, ?_⟩, ?_⟩
      · rw [Run.refused_after, Run.pieces_after, hpieces, List.append_assoc]
      · rw [Run.tokenizer_after, Run.intake_after, Piece.texts_append, List.append_assoc, hkept,
          ← List.append_assoc, htexts, List.append_assoc]
      · rw [Run.refused_after]
        exact ih.overflow
    · rw [hpulled] at he
      cases he

theorem Runs.recovers [InputSource σ] {t : Tokenizer σ} {r : Run σ} (h : Runs t r) :
    Run.Recovers t r := by
  cases h with
  | idle => exact .of_refused_eq_nil rfl (by simp)
  | unbound => exact .of_refused_eq_nil rfl (by simp)
  | drains _ _ hdrains => exact hdrains.recovers

/-! ## Histories -/

/-- What was emitted and is pending holds the text that was taken in, and the pieces that were refused
besides. -/
structure Recovered (t : Tokenizer σ) (d : Record σ) : Prop where
  kept : ∃ kept : Text, kept ++ t.buffer = d.intake ∧ kept.Sublist (Piece.texts d.pieces) ∧
    (Piece.texts d.pieces).length = kept.length + (Piece.texts d.refused).length
  overflow : ∀ r ∈ d.runs, r.refused ≠ [] → r.tokenizer.sizes.capacity < r.tokenizer.buffer.length

theorem Call.Does.recovered [InputSource σ] {t t' : Tokenizer σ} {d d' : Record σ} {c : Call σ}
    (h : c.Does t d t' d') (hr : Recovered t d) : Recovered t' d' := by
  rcases h.run_or_same with ⟨r, hrun, rfl, rfl⟩ | ⟨hbuffer, -, -, hruns⟩
  · obtain ⟨kept, htexts, hsub, hlength⟩ := hr.kept
    obtain ⟨later, hpieces, hlater⟩ := hrun.recovers.kept
    refine ⟨⟨kept ++ Piece.texts later, ?_, ?_, ?_⟩, ?_⟩
    · rw [List.append_assoc, hlater, ← List.append_assoc, htexts, Record.intake_addRun]
    · rw [Record.pieces_addRun, hpieces, Piece.texts_append, Piece.texts_append]
      exact hsub.append (List.sublist_append_left _ _)
    · rw [Record.pieces_addRun, hpieces, Record.refused_addRun]
      simp only [Piece.texts_append, List.length_append]
      omega
    · intro r' hr'
      rcases List.mem_append.1 hr' with hr' | hr'
      · exact hr.overflow r' hr'
      · rw [List.mem_singleton.1 hr']
        exact hrun.recovers.overflow
  · refine ⟨?_, ?_⟩
    · unfold Record.pieces Record.intake Record.refused
      rw [hruns, hbuffer]
      exact hr.kept
    · rw [hruns]
      exact hr.overflow

theorem History.recovered [InputSource σ] {sizes : BufferSizes} {calls : List (Call σ)}
    {t : Tokenizer σ} {d : Record σ} (h : History { sizes } calls t d) : Recovered t d := by
  induction h with
  | start => exact ⟨⟨[], rfl, .slnil, rfl⟩, by simp⟩
  | call _ does ih => exact does.recovered ih

omit [Source σ] in
/-- No text was refused just if no piece was. -/
theorem Record.texts_refused_eq_nil (d : Record σ) :
    Piece.texts d.refused = [] ↔ ∀ r ∈ d.runs, r.refused = [] := by
  constructor
  · intro h r hr
    apply List.eq_nil_iff_forall_not_mem.2
    intro p hp
    have hmem : p ∈ d.refused := List.mem_flatMap.2 ⟨r, hr, hp⟩
    exact Run.text_ne_nil_of_mem_refused hp (List.flatMap_eq_nil_iff.1 h p hmem)
  · intro h
    rw [show d.refused = [] from List.flatMap_eq_nil_iff.2 h]
    rfl

/-- After every call of every history over sources whose failures are failures of the input, whatever
they append when they fail: no text is lost or out of order, and what was emitted and is pending is
longer than what was taken in by just what refused resolutions have emitted. So text comes twice just if
some refused resolution has emitted a piece, which takes a buffer beyond its capacity. -/
theorem text_recovered [InputSource σ] {sizes : BufferSizes} {calls : List (Call σ)} {t : Tokenizer σ}
    {d : Record σ} (h : History { sizes } calls t d) :
    d.intake.Sublist (Piece.texts d.pieces ++ t.buffer) ∧
    (Piece.texts d.pieces ++ t.buffer).length = d.intake.length + (Piece.texts d.refused).length ∧
    (Piece.texts d.pieces ++ t.buffer = d.intake ↔ ∀ r ∈ d.runs, r.refused = []) ∧
    ∀ r ∈ d.runs, r.refused ≠ [] → r.tokenizer.sizes.capacity < r.tokenizer.buffer.length := by
  obtain ⟨⟨kept, htexts, hsub, hlength⟩, hoverflow⟩ := h.recovered
  have hsublist : d.intake.Sublist (Piece.texts d.pieces ++ t.buffer) := by
    rw [← htexts]
    exact hsub.append (List.Sublist.refl _)
  have htotal : (Piece.texts d.pieces ++ t.buffer).length =
      d.intake.length + (Piece.texts d.refused).length := by
    rw [← htexts]
    simp only [List.length_append]
    omega
  refine ⟨hsublist, htotal, ?_, hoverflow⟩
  rw [← Record.texts_refused_eq_nil]
  constructor
  · intro heq
    rw [heq] at htotal
    exact List.eq_nil_of_length_eq_zero (by omega)
  · intro hnil
    rw [hnil, List.length_nil, Nat.add_zero] at htotal
    exact (hsublist.eq_of_length htotal.symm).symm

/-- The pipe breaks in the middle of a line, and the run after it finds the rest: the text comes once. -/
theorem text_recovered_after_broken_pipe :
    let calls : List (Call LineSource) := [.register (.literal ['a']) 1,
      .bind (.ofReader ⟨[], [.bytes [0x61, 0x62], .failure .brokenPipe, .bytes [0x61]]⟩), .run, .run]
    let state := replay {} calls
    state.2.runs.map (·.outcome.isOk) = [false, true] ∧
      Piece.texts state.2.pieces ++ state.1.buffer = ['a', 'b', 'a'] := by
  intro calls state
  have hhistory : History {} calls state.1 state.2 := history_iff.2 rfl
  refine ⟨by decide +kernel, ?_⟩
  have hintake : state.2.intake = ['a', 'b', 'a'] := by decide +kernel
  have hrefused : ∀ r ∈ state.2.runs, r.refused = [] := by decide +kernel
  rw [(text_recovered hhistory).2.2.1.2 hrefused, hintake]

/-- With room for three characters, the pull that fails leaves two in the buffer that the head does not
count, and the next one fills it up to five. The literal `bcde` has begun in it, so both runs after the
failure are refused the text, and each of them emits the `a` before it. -/
theorem text_repeated_after_broken_pipe :
    let calls : List (Call LineSource) := [.register (.literal ['a']) 1,
      .register (.literal ['b', 'c', 'd', 'e']) 2, .listen ['d'],
      .bind (.ofReader ⟨[], [.bytes [0x61, 0x0A], .failure .brokenPipe, .bytes [0x62, 0x63, 0x64]]⟩),
      .run, .run, .run]
    let state := replay { sizes := ⟨3, 3, by decide, by decide⟩ } calls
    state.2.tokens = [⟨1, ['a']⟩, ⟨1, ['a']⟩] ∧
      ¬ Piece.texts state.2.pieces ++ state.1.buffer = state.2.intake := by
  decide +kernel

end Thicket.Tokenizer
