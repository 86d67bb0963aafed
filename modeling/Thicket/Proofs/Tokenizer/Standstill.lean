import Thicket.Proofs.Tokenizer.Exhaustion

/-!
# A jammed tokenizer stands still

A run is exhausted just if one of its rounds begins with a jammed buffer, or a source says itself that it is
exhausted (`Reaches.exhausted_iff`). Then nothing helps any more. The run ends there, and the tokenizer is
stuck (`Stuck`): further rules come behind the one that waits, a new source is not asked for anything, and
each further run fails at once and leaves everything as it was (`Stuck.run_iff`, `Call.Does.stuck`).
-/

namespace Thicket.Tokenizer

variable {σ : Type} [Source σ]

/-! ## The rounds of a run -/

/-- The run of a tokenizer comes to a round that begins with `t'` and `source'`. -/
inductive Reaches (t : Tokenizer σ) : (t' : Tokenizer σ) → (source' : σ) → Prop
  | start {source : σ} (hrules : t.rules ≠ []) (hsource : t.source = some source) : Reaches t t source
  | next {t' : Tokenizer σ} {source' : σ} {count : Nat} (before : Reaches t t' source')
      (hpulled : (t'.cycle source').pulled = .ok (count + 1)) :
      Reaches t (t'.cycle source').tokenizer (t'.cycle source').source

variable {t t' : Tokenizer σ} {source source' : σ}

/-- A run does what its rounds do up to some round, and then what the rounds from there on do. -/
theorem Reaches.exists_runs (h : Reaches t t' source') {later : Run σ} (hlater : Drains t' source' later)
    {e : Fault} (he : later.outcome = .error e) :
    ∃ r, Runs t r ∧ r.outcome = .error e ∧ r.tokenizer = later.tokenizer := by
  induction h generalizing later with
  | start hrules hsource => exact ⟨later, .drains hrules hsource hlater, he, rfl⟩
  | @next t' source' count _ hpulled ih =>
    apply ih (.again hpulled hlater)
    rw [Run.after, he]
    rfl

/-- A run that fails after its rounds have begun fails in one of them. -/
theorem Reaches.exists_failed (h : Reaches t t' source') {r : Run σ} (hdrains : Drains t' source' r)
    {e : Fault} (he : r.outcome = .error e) :
    ∃ t'' source'', Reaches t t'' source'' ∧ (t''.cycle source'').pulled = .error e := by
  induction hdrains with
  | @failed t' source' e' hpulled =>
    cases he
    exact ⟨t', source', h, hpulled⟩
  | ended => cases he
  | again hpulled _ ih => exact ih (h.next hpulled) (Run.outcome_after_error he)

/-- A run is exhausted just if one of its rounds is. -/
theorem exists_exhausted_iff :
    (∃ r e, Runs t r ∧ r.outcome = .error e ∧ e.category = .exhausted) ↔
      ∃ t' source' e, Reaches t t' source' ∧ (t'.cycle source').pulled = .error e ∧
        e.category = .exhausted := by
  constructor
  · rintro ⟨r, e, hruns, he, hcategory⟩
    cases hruns with
    | idle => cases he
    | unbound =>
      cases he
      cases hcategory
    | drains hrules hsource hdrains =>
      obtain ⟨t', source', hreaches, hpulled⟩ :=
        Reaches.exists_failed (.start hrules hsource) hdrains he
      exact ⟨t', source', e, hreaches, hpulled, hcategory⟩
  · rintro ⟨t', source', e, hreaches, hpulled, hcategory⟩
    obtain ⟨r, hruns, he, -⟩ := hreaches.exists_runs (.failed hpulled) rfl
    exact ⟨r, e, hruns, he, hcategory⟩

/-- The source says that it is exhausted when the round asks it for text. -/
def SourceExhausted (t : Tokenizer σ) (source : σ) : Prop :=
  ∃ pieces t' e, t.settle = (pieces, none, t') ∧ (Source.pull source t'.request).result = .error e ∧
    e.category = .exhausted

/-- A round is exhausted just if it begins with a jam or its source is exhausted. -/
theorem Sound.cycle_exhausted_iff (ht : t.Sound) (source : σ) :
    (∃ e, (t.cycle source).pulled = .error e ∧ e.category = .exhausted) ↔
      t.Jammed ∨ t.SourceExhausted source := by
  constructor
  · rintro ⟨e, he, hcategory⟩
    obtain ⟨pieces, e', t', hsettle, heq⟩ | ⟨pieces, t', hsettle, hroom, heq⟩ :=
      cycle_cases t source <;> rw [heq] at he
    · obtain ⟨-, -, hrefused⟩ := ht.settle_error hsettle
      exact .inl ((refused_iff_jams t.sizes.capacity_pos ht.fits).1
        ⟨e', congrArg Resolution.carried hrefused⟩)
    · exact .inr ⟨pieces, t', e, hsettle, he, hcategory⟩
  · rintro (hjammed | ⟨pieces, t', e, hsettle, he, hcategory⟩)
    · exact ⟨_, congrArg Cycle.pulled (ht.cycle_of_jammed hjammed source), rfl⟩
    · exact ⟨e, (congrArg Cycle.pulled (cycle_of_settle hsettle source)).trans he, hcategory⟩

/-! ## Standing still -/

/-- The buffer is jammed, and a run would try to settle it. -/
structure Stuck (t : Tokenizer σ) : Prop where
  sound : t.Sound
  jammed : t.Jammed
  bound : t.source ≠ none

omit [Source σ] in
theorem Stuck.rules_ne_nil (h : t.Stuck) : t.rules ≠ [] := by
  intro hnil
  have hanswer := h.jammed.2
  rw [hnil] at hanswer
  cases hanswer

/-- A run of a stuck tokenizer fails and does nothing. -/
theorem Stuck.run_iff (h : t.Stuck) {r : Run σ} :
    Runs t r ↔ r = ⟨[], [], .error (Cause.longPartial t.sizes.capacity), t⟩ := by
  obtain ⟨source, hsource⟩ := Option.ne_none_iff_exists'.1 h.bound
  have hcycle := h.sound.cycle_of_jammed h.jammed source
  have hsame : t.bind source = t := by
    rw [bind, ← hsource]
  have hruns : Runs t ⟨[], [], .error (Cause.longPartial t.sizes.capacity), t⟩ := by
    apply Runs.drains h.rules_ne_nil hsource
    have hfailed : Drains t source _ := .failed (congrArg Cycle.pulled hcycle)
    rwa [hcycle, Cycle.finish, hsame] at hfailed
  exact ⟨fun hr => hr.unique hruns, fun hr => hr ▸ hruns⟩

/-- Rules below the first one that answers make no difference. -/
theorem firstAnswer?_append {rules more : List Rule} {last : Bool} {text : Text} {a : Answer}
    (h : Rule.firstAnswer? rules last text = some a) :
    Rule.firstAnswer? (rules ++ more) last text = some a := by
  unfold Rule.firstAnswer? at h ⊢
  rw [List.findSome?_append, h]
  rfl

/-- A stuck tokenizer stays so, whatever is called, and its buffer stays as it is. -/
theorem Call.Does.stuck {d d' : Record σ} {c : Call σ} (h : c.Does t d t' d') (ht : t.Stuck) :
    t'.Stuck ∧ t'.buffer = t.buffer ∧ t'.sizes = t.sizes := by
  cases h with
  | registered hregister =>
    obtain ⟨-, rfl⟩ := register_cases hregister
    have hjams := ht.jammed
    refine ⟨⟨ht.sound.congr rfl rfl rfl, ⟨hjams.1, firstAnswer?_append hjams.2⟩, ht.bound⟩, rfl, rfl⟩
  | notRegistered => exact ⟨ht, rfl, rfl⟩
  | bound source => exact ⟨⟨ht.sound.congr rfl rfl rfl, ht.jammed, Option.some_ne_none source⟩, rfl, rfl⟩
  | listening => exact ⟨⟨ht.sound.congr rfl rfl rfl, ht.jammed, ht.bound⟩, rfl, rfl⟩
  | ran hrun =>
    rw [ht.run_iff.1 hrun]
    exact ⟨ht, rfl, rfl⟩
  | popped hpop =>
    obtain ⟨-, heq⟩ := pop_cases hpop
    rw [heq]
    exact ⟨⟨ht.sound.congr rfl rfl rfl, ht.jammed, ht.bound⟩, rfl, rfl⟩
  | notPopped => exact ⟨ht, rfl, rfl⟩

theorem History.stuck {calls : List (Call σ)} {d : Record σ} (h : History t calls t' d) (ht : t.Stuck) :
    t'.Stuck ∧ t'.buffer = t.buffer ∧ t'.sizes = t.sizes := by
  induction h with
  | start => exact ⟨ht, rfl, rfl⟩
  | call _ does ih =>
    obtain ⟨hstuck, hbuffer, hsizes⟩ := ih
    obtain ⟨hstuck', hbuffer', hsizes'⟩ := does.stuck hstuck
    exact ⟨hstuck', hbuffer'.trans hbuffer, hsizes'.trans hsizes⟩

/-! ## Exhaustion -/

section Lawful

variable [LawfulSource σ]

omit [LawfulSource σ] in
theorem Reaches.sizes_eq (h : Reaches t t' source') : t'.sizes = t.sizes := by
  induction h with
  | start => rfl
  | next _ _ ih => exact (cycle_emits _ _).sizes.trans ih

theorem Reaches.sound (h : Reaches t t' source') (ht : t.Sound) : t'.Sound := by
  induction h with
  | start => exact ht
  | next _ _ ih => exact (ih.cycle _).1

/-- The run that comes to a jammed buffer ends there, and leaves the tokenizer stuck. -/
theorem Reaches.exists_stuck (h : Reaches t t' source') (ht : t.Sound) (hjammed : t'.Jammed) :
    ∃ r, Runs t r ∧ r.outcome = .error (Cause.longPartial t'.sizes.capacity) ∧ r.tokenizer.Stuck ∧
      r.tokenizer.buffer = t'.buffer := by
  have hsound := h.sound ht
  have hcycle := hsound.cycle_of_jammed hjammed source'
  have hdrains : Drains t' source' _ := .failed (congrArg Cycle.pulled hcycle)
  rw [hcycle] at hdrains
  obtain ⟨r, hruns, he, htokenizer⟩ := h.exists_runs hdrains rfl
  refine ⟨r, hruns, he, ?_, ?_⟩
  · rw [htokenizer]
    exact ⟨hsound.congr rfl rfl rfl, hjammed, Option.some_ne_none source'⟩
  · rw [htokenizer]
    rfl

/-- A run over lawful sources is exhausted just if one of its rounds begins with a buffer that is full and
on the whole of which the first rule to answer says that a match may have begun; but for sources that say
themselves that they are exhausted. Such a run has an end, and then whatever is registered, bound, listened
to or taken, each further run fails in the same way, and emits nothing, takes nothing in and changes
nothing. -/
theorem exhausted_for_good {sizes : BufferSizes} {calls : List (Call σ)} {d : Record σ}
    (h : History { sizes } calls t d) :
    ((∃ r e, Runs t r ∧ r.outcome = .error e ∧ e.category = .exhausted) ↔
      ∃ t' source', Reaches t t' source' ∧ (t'.Jammed ∨ t'.SourceExhausted source')) ∧
    ((∀ (source : σ) (most : Nat) (e : Fault),
        (Source.pull source most).result = .error e → e.category ≠ .exhausted) →
      ((∃ r e, Runs t r ∧ r.outcome = .error e ∧ e.category = .exhausted) ↔
        ∃ t' source', Reaches t t' source' ∧ t'.Jammed)) ∧
    ∀ t' source', Reaches t t' source' → t'.Jammed →
      ∃ r, Runs t r ∧ r.outcome = .error (Cause.longPartial sizes.capacity) ∧
        r.tokenizer.buffer = t'.buffer ∧
        ∀ more later d', History r.tokenizer more later d' →
          later.buffer = t'.buffer ∧
          ∀ r', Runs later r' ↔ r' = ⟨[], [], .error (Cause.longPartial sizes.capacity), later⟩ := by
  obtain ⟨hsound, -⟩ := h.conserve
  have hsizes := h.sizes_eq
  have hexhausted : (∃ r e, Runs t r ∧ r.outcome = .error e ∧ e.category = .exhausted) ↔
      ∃ t' source', Reaches t t' source' ∧ (t'.Jammed ∨ t'.SourceExhausted source') := by
    rw [exists_exhausted_iff]
    constructor
    · rintro ⟨t', source', e, hreaches, hpulled, hcategory⟩
      have hround := (hreaches.sound hsound).cycle_exhausted_iff source'
      exact ⟨t', source', hreaches, hround.1 ⟨e, hpulled, hcategory⟩⟩
    · rintro ⟨t', source', hreaches, hround⟩
      obtain ⟨e, hpulled, hcategory⟩ := ((hreaches.sound hsound).cycle_exhausted_iff source').2 hround
      exact ⟨t', source', e, hreaches, hpulled, hcategory⟩
  refine ⟨hexhausted, ?_, ?_⟩
  · intro hsource
    have hnever : ∀ (t' : Tokenizer σ) (source' : σ), ¬ t'.SourceExhausted source' := by
      rintro t' source' ⟨pieces, t'', e, -, he, hcategory⟩
      exact hsource _ _ e he hcategory
    simpa only [hnever, or_false] using hexhausted
  · intro t' source' hreaches hjammed
    obtain ⟨r, hruns, he, hstuck, hbuffer⟩ := hreaches.exists_stuck hsound hjammed
    have hcapacity : t'.sizes = sizes := hreaches.sizes_eq.trans hsizes
    refine ⟨r, hruns, hcapacity ▸ he, hbuffer, ?_⟩
    intro more later d' hlater
    obtain ⟨hstuck', hbuffer', hsizes'⟩ := hlater.stuck hstuck
    refine ⟨hbuffer'.trans hbuffer, fun r' => ?_⟩
    rw [hstuck'.run_iff, hsizes', hruns.emits.sizes, hsizes]

end Lawful

/-- With room for three characters, the beginning of `abcd` is stuck behind an `x`. A new source and a rule
for the `x` come too late. -/
theorem exhausted_for_good_rebound :
    let calls : List (Call CharSource) := [.register (.literal "abcd".toList) 1, .bind ⟨"xabcd".toList⟩]
    let more : List (Call CharSource) := [.pop, .register (.literal ['x']) 2, .bind ⟨['d']⟩,
      .listen "log".toList, .run]
    let state := replay { sizes := ⟨3, 2, by decide, by decide⟩ } calls
    let later := replay state.1.run.tokenizer more
    state.1.run.outcome = .error (Cause.longPartial 3) ∧ later.1.buffer = "xab".toList ∧
      later.1.run = ⟨[], [], .error (Cause.longPartial 3), later.1⟩ := by
  intro calls more state later
  have hhistory : History { sizes := ⟨3, 2, by decide, by decide⟩ } calls state.1 state.2 :=
    history_iff.2 rfl
  have hlawful : ∀ (source : CharSource) (most : Nat) (e : Fault),
      (Source.pull source most).result = .error e → e.category ≠ .exhausted := nofun
  obtain ⟨-, hexhausted, hgood⟩ := exhausted_for_good hhistory
  have houtcome : state.1.run.outcome = .error (Cause.longPartial 3) := by decide +kernel
  obtain ⟨t', source', hreaches, hjammed⟩ :=
    (hexhausted hlawful).1 ⟨state.1.run, _, runs_iff.2 rfl, houtcome, rfl⟩
  obtain ⟨r, hruns, -, hbuffer, hlater⟩ := hgood t' source' hreaches hjammed
  obtain rfl := runs_iff.1 hruns
  obtain ⟨hsame, hrun⟩ := hlater more later.1 later.2 (history_iff.2 rfl)
  refine ⟨houtcome, ?_, (hrun later.1.run).1 (runs_iff.2 rfl)⟩
  rw [hsame, ← hbuffer]
  decide +kernel

end Thicket.Tokenizer
