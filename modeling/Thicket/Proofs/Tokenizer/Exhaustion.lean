import Thicket.Proofs.Tokenizer.Recovery

/-!
# Jammed buffers

A text jams a buffer if it fills it and the first rule that gives an answer on the whole of it says that a
match may have begun: it cannot be cut, and there is no room for the text that it waits for. Of the texts
that fit, resolving refuses just those that jam the buffer (`refused_iff_jams`).

So a run over a lawful source is exhausted just if it ends with a jammed buffer
(`Runs.exhausted_iff_jammed`).
-/

namespace Thicket

/-! ## Texts that are refused -/

/-- A text that fills a buffer and waits for more. -/
def Rule.Jams (rules : List Rule) (capacity : Nat) (t : Text) : Prop :=
  t.length = capacity ∧ Rule.firstAnswer? rules true t = some .begun

variable {capacity : Nat} {rules : List Rule}

/-- What is refused is the end of the text, is the beginning of a match and does not fit. -/
theorem resolveSegments_refused {work : List Segment} {e : Fault}
    (h : (resolveSegments capacity rules work).carried = .error e) :
    ∃ rest, rest <:+ Segment.texts work ∧ capacity ≤ rest.length ∧
      Rule.firstAnswer? rules true rest = some .begun := by
  fun_induction resolveSegments capacity rules work with
  | case1 => cases h
  | case2 s work ih =>
    obtain ⟨rest, hsuffix, hrest⟩ := ih h
    exact ⟨rest, hsuffix.trans (List.suffix_append _ _), hrest⟩
  | case3 work ih => exact ih h
  | case4 c rest work cut id answer ih =>
    obtain ⟨rest', hsuffix, hrest⟩ := ih h
    rw [Rule.texts_firstAnswer? answer] at hsuffix
    exact ⟨rest', hsuffix, hrest⟩
  | case5 c rest work answer hlong =>
    have hlast := Rule.firstAnswer?_begun answer
    rw [hlast] at answer
    obtain rfl := List.isEmpty_iff.1 hlast
    refine ⟨c :: rest, ?_, hlong, answer⟩
    rw [Segment.texts_cons, Segment.texts_nil, List.append_nil]
    exact List.suffix_refl _
  | case6 => cases h
  | case7 c rest work answer ih =>
    obtain ⟨rest', hsuffix, hrest⟩ := ih h
    exact ⟨rest', hsuffix.trans (List.suffix_append _ _), hrest⟩

/-- Of the texts that fit, those that jam the buffer are refused, and no others. -/
theorem refused_iff_jams {t : Text} (hpos : 0 < capacity) (hfits : t.length ≤ capacity) :
    (∃ e, (resolveText capacity rules t).carried = .error e) ↔ Rule.Jams rules capacity t := by
  constructor
  · rintro ⟨e, he⟩
    obtain ⟨rest, hsuffix, hlong, hanswer⟩ := resolveSegments_refused he
    rw [Segment.texts_cons, Segment.texts_nil, List.append_nil] at hsuffix
    -- what is refused is as long as the whole text
    obtain rfl : rest = t := hsuffix.eq_of_length_le (Nat.le_trans hfits hlong)
    exact ⟨Nat.le_antisymm hfits hlong, hanswer⟩
  · rintro ⟨hfull, hanswer⟩
    cases t with
    | nil =>
      rw [List.length_nil] at hfull
      omega
    | cons c rest =>
      refine ⟨(Cause.longPartial capacity : Fault), ?_⟩
      rw [resolveText, resolveSegments]
      split
      · next cut id hfound =>
        rw [List.isEmpty_nil, hanswer] at hfound
        cases hfound
      · rw [if_pos (Nat.le_of_eq hfull.symm)]
      · next hnone =>
        rw [List.isEmpty_nil, hanswer] at hnone
        cases hnone

/-! ## Runs that are exhausted -/

namespace Tokenizer

variable {σ : Type}

/-- The buffer is full, and what is in it waits for more. -/
def Jammed (t : Tokenizer σ) : Prop := Rule.Jams t.rules t.sizes.capacity t.buffer

/-- There is no jam as long as the buffer has room. -/
theorem Sound.not_jammed {t : Tokenizer σ} (ht : t.Sound) (hroom : t.head < t.sizes.capacity) :
    ¬ t.Jammed := by
  rintro ⟨hfull, -⟩
  rw [ht.head_eq] at hroom
  omega

/-- A jammed buffer cannot be settled: it is refused as a whole. -/
theorem Sound.settle_of_jammed {t : Tokenizer σ} (ht : t.Sound) (h : t.Jammed) :
    t.settle = ([], some (Cause.longPartial t.sizes.capacity : Fault), t) := by
  have hpos := t.sizes.capacity_pos
  have hrefused := (refused_iff_jams hpos ht.fits).2 h
  obtain ⟨hhead, -⟩ | ⟨text, hcarried, -⟩ | ⟨e, hcarried, hsettle⟩ := settle_cases t
  · have hfull := h.1
    rw [ht.head_eq] at hhead
    omega
  · obtain ⟨e, he⟩ := hrefused
    cases hcarried.symm.trans he
  · obtain ⟨hpieces, hsame, -⟩ := ht.settle_error hsettle
    rw [hsettle, hsame, hpieces, resolveText_error hcarried]

variable [Source σ]

/-- A round with a jammed buffer fails and does nothing: nothing is emitted, and the source is not asked. -/
theorem Sound.cycle_of_jammed {t : Tokenizer σ} (ht : t.Sound) (h : t.Jammed) (source : σ) :
    t.cycle source = ⟨[], [], .error (Cause.longPartial t.sizes.capacity), t, source⟩ := by
  unfold Tokenizer.cycle
  rw [ht.settle_of_jammed h]

/-- The sizes stay as they were chosen. -/
theorem History.sizes_eq {sizes : BufferSizes} {calls : List (Call σ)} {t : Tokenizer σ} {d : Record σ}
    (h : History { sizes } calls t d) : t.sizes = sizes := by
  induction h with
  | start => rfl
  | call _ does ih =>
    rcases does.run_or_same with ⟨r, hrun, rfl, -⟩ | ⟨-, -, hsame, -⟩
    · exact hrun.emits.sizes.trans ih
    · exact hsame.trans ih

variable [LawfulSource σ]

/-- After a round that pulls no text there is a jam only if nothing could be settled. -/
theorem Sound.exhausted_of_cycle_jammed {t : Tokenizer σ} (ht : t.Sound) {source : σ}
    (hjammed : (t.cycle source).tokenizer.Jammed)
    (hlast : ∀ count, (t.cycle source).pulled ≠ .ok (count + 1)) :
    ∃ e, (t.cycle source).pulled = .error e ∧ e.category = .exhausted := by
  obtain ⟨pieces, e, t', hsettle, heq⟩ | ⟨pieces, t', hsettle, hroom, heq⟩ :=
    cycle_cases t source <;> rw [heq] at hjammed hlast ⊢
  · obtain ⟨hcategory, -⟩ := settle_refused hsettle
    exact ⟨e, rfl, hcategory⟩
  · -- nothing has come behind what was settled
    have htext : (Source.pull source t'.request).text = [] := by
      cases hresult : (Source.pull source t'.request).result with
      | error e => exact LawfulSource.text_of_error _ _ e hresult
      | ok count =>
        have hlength := LawfulSource.length_text_of_ok _ _ count hresult
        cases count with
        | zero => exact List.eq_nil_of_length_eq_zero hlength
        | succ count => exact absurd hresult (hlast count)
    have hsame : Rule.Jams t'.rules t'.sizes.capacity (t'.buffer ++ []) := by
      rw [← htext]
      exact hjammed
    rw [List.append_nil] at hsame
    exact absurd hsame ((ht.settle hsettle).not_jammed hroom)

variable (hsource : ∀ (source : σ) (most : Nat) (e : Fault),
  (Source.pull source most).result = .error e → e.category ≠ .exhausted)
include hsource

theorem Drains.exhausted_iff_jammed {t : Tokenizer σ} {source : σ} {r : Run σ} (h : Drains t source r)
    (ht : t.Sound) :
    (∃ e, r.outcome = .error e ∧ e.category = .exhausted) ↔ r.tokenizer.Jammed := by
  constructor
  · rintro ⟨e, he, hcategory⟩
    rcases h.error ht he with ⟨source', most, hpull⟩ | hrefused
    · exact absurd hcategory (hsource source' most e hpull)
    · obtain ⟨hsound, -⟩ := h.conserve ht
      apply (refused_iff_jams r.tokenizer.sizes.capacity_pos hsound.fits).1
      exact ⟨e, congrArg Resolution.carried hrefused⟩
  · intro hjammed
    induction h with
    | @failed t source e hpulled =>
      have hlast : ∀ count, (t.cycle source).pulled ≠ .ok (count + 1) := by
        rw [hpulled]
        exact nofun
      obtain ⟨e', he', hcategory⟩ := ht.exhausted_of_cycle_jammed hjammed hlast
      cases hpulled.symm.trans he'
      exact ⟨e, rfl, hcategory⟩
    | @ended t source hpulled =>
      have hlast : ∀ count, (t.cycle source).pulled ≠ .ok (count + 1) := by
        rw [hpulled]
        exact nofun
      obtain ⟨e', he', -⟩ := ht.exhausted_of_cycle_jammed hjammed hlast
      cases hpulled.symm.trans he'
    | @again t source count later hpulled _ ih =>
      obtain ⟨e, he, hcategory⟩ := ih (ht.cycle source).1 hjammed
      refine ⟨e, ?_, hcategory⟩
      rw [Run.after, he]
      rfl

/-- Over sources that are lawful and not exhausted themselves, a run is exhausted just if there is a source
and the run ends with a jammed buffer. -/
theorem Runs.exhausted_iff_jammed {t : Tokenizer σ} {r : Run σ} (h : Runs t r) (ht : t.Sound) :
    (∃ e, r.outcome = .error e ∧ e.category = .exhausted) ↔
      t.source ≠ none ∧ r.tokenizer.Jammed := by
  cases h with
  | idle hnone =>
    constructor
    · rintro ⟨e, he, -⟩
      cases he
    · rintro ⟨-, -, hanswer⟩
      rw [hnone] at hanswer
      cases hanswer
  | unbound _ hunbound =>
    constructor
    · rintro ⟨e, he, hcategory⟩
      cases he
      cases hcategory
    · rintro ⟨hbound, -⟩
      exact absurd hunbound hbound
  | @drains source _ _ hbound hdrains =>
    rw [hdrains.exhausted_iff_jammed hsource ht, hbound]
    exact ⟨fun hjammed => ⟨Option.some_ne_none source, hjammed⟩, fun hjammed => hjammed.2⟩

end Tokenizer

end Thicket
