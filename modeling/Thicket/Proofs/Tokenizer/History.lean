import Thicket.Proofs.Tokenizer.Rounds

/-!
# Histories of a tokenizer

A history is a tokenizer with the calls that were made on it, in any order, and a record of what they
did: the runs, and the tokens that were taken. A call that fails is part of the history like any other;
only a run that fails may have changed something. Sources may be of any kind; over finite sources a
list of calls has just one history, the one that `replay` computes (`history_iff`).

What holds of the queue and of the tokens holds whatever the sources do (`History.accounted`).
-/

namespace Thicket.Tokenizer

variable {σ : Type}

/-- A call of a tokenizer. -/
inductive Call (σ : Type) where
  | register (matcher : Matcher) (id : SymbolId)
  | bind (source : σ)
  | listen (listener : Text)
  | run
  | pop

/-- What has been done with a tokenizer: its runs and the tokens taken from it, in order. -/
structure Record (σ : Type) where
  runs : List (Run σ) := []
  popped : List Symbol := []

namespace Record

/-- The pieces that were emitted. -/
def pieces (d : Record σ) : List Piece := d.runs.flatMap Run.pieces

/-- The tokens that were queued. -/
def tokens (d : Record σ) : List Symbol := Piece.tokens d.pieces

/-- The text that was taken in. -/
def intake (d : Record σ) : Text := d.runs.flatMap Run.intake

/-- One more run. -/
def addRun (d : Record σ) (r : Run σ) : Record σ := { d with runs := d.runs ++ [r] }

/-- One more token taken. -/
def addPopped (d : Record σ) (s : Symbol) : Record σ := { d with popped := d.popped ++ [s] }

@[simp] theorem pieces_addRun (d : Record σ) (r : Run σ) :
    (d.addRun r).pieces = d.pieces ++ r.pieces := by
  simp [pieces, addRun, List.flatMap_append]

@[simp] theorem tokens_addRun (d : Record σ) (r : Run σ) :
    (d.addRun r).tokens = d.tokens ++ Piece.tokens r.pieces := by
  rw [tokens, pieces_addRun, Piece.tokens_append, tokens]

@[simp] theorem intake_addRun (d : Record σ) (r : Run σ) :
    (d.addRun r).intake = d.intake ++ r.intake := by
  simp [intake, addRun, List.flatMap_append]

@[simp] theorem tokens_addPopped (d : Record σ) (s : Symbol) : (d.addPopped s).tokens = d.tokens := rfl

end Record

/-! ## Histories over sources of any kind -/

section Source

variable [Source σ]

/-- What a call makes of a tokenizer and its record. -/
inductive Call.Does (t : Tokenizer σ) (d : Record σ) : Call σ → Tokenizer σ → Record σ → Prop
  | registered {m : Matcher} {id : SymbolId} {t' : Tokenizer σ} (h : t.register m id = .ok t') :
      Does t d (.register m id) t' d
  | notRegistered {m : Matcher} {id : SymbolId} {e : Fault} (h : t.register m id = .error e) :
      Does t d (.register m id) t d
  | bound (source : σ) : Does t d (.bind source) (t.bind source) d
  | listening (listener : Text) : Does t d (.listen listener) (t.listen listener) d
  | ran {r : Run σ} (h : Runs t r) : Does t d .run r.tokenizer (d.addRun r)
  | popped {s : Symbol} {t' : Tokenizer σ} (h : t.pop = .ok (s, t')) : Does t d .pop t' (d.addPopped s)
  | notPopped {e : Fault} (h : t.pop = .error e) : Does t d .pop t d

/-- What calls make of a tokenizer, one after the other. -/
inductive History (t₀ : Tokenizer σ) : List (Call σ) → Tokenizer σ → Record σ → Prop
  | start : History t₀ [] t₀ {}
  | call {calls : List (Call σ)} {c : Call σ} {t t' : Tokenizer σ} {d d' : Record σ}
      (before : History t₀ calls t d) (does : c.Does t d t' d') : History t₀ (calls ++ [c]) t' d'

/-! ## Queue and tokens -/

/-- The queue is what was emitted less what was taken, the tokens are such as the rules can have made,
and no rule makes unresolved text. -/
structure Accounted (t : Tokenizer σ) (d : Record σ) : Prop where
  queue : d.popped ++ t.queue = d.tokens
  yield : ∀ s ∈ d.tokens, Rule.Yield t.rules s
  resolved : ∀ r ∈ t.rules, r.id ≠ SymbolId.unresolved

omit [Source σ] in
theorem register_cases {t t' : Tokenizer σ} {m : Matcher} {id : SymbolId}
    (h : t.register m id = .ok t') :
    id ≠ SymbolId.unresolved ∧ t' = { t with rules := t.rules ++ [⟨m, id⟩] } := by
  unfold register at h
  split at h
  · cases h
  · next hid =>
    cases h
    exact ⟨by simpa [SymbolId.isUnresolved] using hid, rfl⟩

omit [Source σ] in
theorem pop_cases {t t' : Tokenizer σ} {s : Symbol} (h : t.pop = .ok (s, t')) :
    t.queue = s :: t'.queue ∧ t' = { t with queue := t'.queue } := by
  unfold pop at h
  split at h
  · cases h
  · next hqueue =>
    cases h
    exact ⟨hqueue, rfl⟩

/-- A call is a run, or leaves buffer, head, sizes and the record of runs as they are. -/
theorem Call.Does.run_or_same {t t' : Tokenizer σ} {d d' : Record σ} {c : Call σ}
    (h : c.Does t d t' d') :
    (∃ r, Runs t r ∧ t' = r.tokenizer ∧ d' = d.addRun r) ∨
      (t'.buffer = t.buffer ∧ t'.head = t.head ∧ t'.sizes = t.sizes ∧ d'.runs = d.runs) := by
  cases h with
  | registered h =>
    obtain ⟨-, rfl⟩ := register_cases h
    exact .inr ⟨rfl, rfl, rfl, rfl⟩
  | notRegistered => exact .inr ⟨rfl, rfl, rfl, rfl⟩
  | bound => exact .inr ⟨rfl, rfl, rfl, rfl⟩
  | listening => exact .inr ⟨rfl, rfl, rfl, rfl⟩
  | @ran r hrun => exact .inl ⟨r, hrun, rfl, rfl⟩
  | popped h =>
    obtain ⟨-, heq⟩ := pop_cases h
    rw [heq]
    exact .inr ⟨rfl, rfl, rfl, rfl⟩
  | notPopped => exact .inr ⟨rfl, rfl, rfl, rfl⟩

theorem Call.Does.accounted {t t' : Tokenizer σ} {d d' : Record σ} {c : Call σ}
    (h : c.Does t d t' d') (ha : Accounted t d) : Accounted t' d' := by
  cases h with
  | registered h =>
    obtain ⟨hid, rfl⟩ := register_cases h
    refine ⟨ha.queue, fun s hs => Rule.Yield.mono (fun r hr => List.mem_append_left _ hr) (ha.yield s hs), ?_⟩
    intro r hr
    rcases List.mem_append.1 hr with hr | hr
    · exact ha.resolved r hr
    · rw [List.mem_singleton.1 hr]
      exact hid
  | notRegistered => exact ha
  | bound => exact ⟨ha.queue, ha.yield, ha.resolved⟩
  | listening => exact ⟨ha.queue, ha.yield, ha.resolved⟩
  | @ran r hrun =>
    have hemits := hrun.emits
    refine ⟨?_, ?_, ?_⟩
    · rw [hemits.queue, ← List.append_assoc, Record.tokens_addRun, ← ha.queue]
      rfl
    · intro s hs
      rw [Record.tokens_addRun, List.mem_append] at hs
      rw [hemits.rules]
      exact hs.elim (ha.yield s) (hemits.yield s)
    · rw [hemits.rules]
      exact ha.resolved
  | @popped s t' h =>
    obtain ⟨hqueue, heq⟩ := pop_cases h
    have hrules : t'.rules = t.rules := by rw [heq]
    refine ⟨?_, ?_, ?_⟩
    · rw [Record.tokens_addPopped, ← ha.queue, hqueue]
      simp [Record.addPopped]
    · rw [Record.tokens_addPopped, hrules]
      exact ha.yield
    · rw [hrules]
      exact ha.resolved
  | notPopped => exact ha

theorem History.accounted {sizes : BufferSizes} {calls : List (Call σ)} {t : Tokenizer σ}
    {d : Record σ} (h : History { sizes } calls t d) : Accounted t d := by
  induction h with
  | start => exact ⟨rfl, by simp [Record.tokens, Record.pieces], by simp⟩
  | call _ does ih => exact does.accounted ih

end Source

/-! ## Histories over finite sources -/

/-- What a call makes of a tokenizer over finite sources and of its record. -/
def Call.perform [FiniteSource σ] (state : Tokenizer σ × Record σ) : Call σ → Tokenizer σ × Record σ
  | .register m id => (((state.1.register m id).toOption.getD state.1), state.2)
  | .bind source => (state.1.bind source, state.2)
  | .listen listener => (state.1.listen listener, state.2)
  | .run => (state.1.run.tokenizer, state.2.addRun state.1.run)
  | .pop =>
    match state.1.pop with
    | .ok (s, t) => (t, state.2.addPopped s)
    | .error _ => state

/-- What calls make of a tokenizer over finite sources. -/
def replay [FiniteSource σ] (t₀ : Tokenizer σ) (calls : List (Call σ)) : Tokenizer σ × Record σ :=
  calls.foldl Call.perform (t₀, {})

theorem does_iff [FiniteSource σ] {t t' : Tokenizer σ} {d d' : Record σ} {c : Call σ} :
    c.Does t d t' d' ↔ (t', d') = c.perform (t, d) := by
  constructor
  · intro h
    cases h with
    | registered h => simp [Call.perform, h, Except.toOption]
    | notRegistered h => simp [Call.perform, h, Except.toOption]
    | bound => rfl
    | listening => rfl
    | ran h =>
      rw [runs_iff] at h
      subst h
      rfl
    | popped h => simp [Call.perform, h]
    | notPopped h => simp [Call.perform, h]
  · intro h
    cases c with
    | register m id =>
      cases hregister : t.register m id with
      | ok t'' =>
        simp only [Call.perform, hregister, Except.toOption, Option.getD_some] at h
        cases h
        exact .registered hregister
      | error e =>
        simp only [Call.perform, hregister, Except.toOption, Option.getD_none] at h
        cases h
        exact .notRegistered hregister
    | bind source => cases h; exact .bound source
    | listen listener => cases h; exact .listening listener
    | run => cases h; exact .ran (runs_iff.2 rfl)
    | pop =>
      simp only [Call.perform] at h
      split at h
      · next hpop => cases h; exact .popped hpop
      · next hpop => cases h; exact .notPopped hpop

/-- A history goes on as the calls perform. -/
theorem History.foldl_perform [FiniteSource σ] {t₀ t : Tokenizer σ} {calls : List (Call σ)}
    {d : Record σ} (h : History t₀ calls t d) (more : List (Call σ)) :
    History t₀ (calls ++ more) (more.foldl Call.perform (t, d)).1
      (more.foldl Call.perform (t, d)).2 := by
  induction more generalizing calls t d with
  | nil => rwa [List.append_nil]
  | cons c more ih =>
    rw [List.append_cons]
    exact ih (h.call (does_iff.2 rfl))

/-- Over finite sources every list of calls has one history. -/
theorem history_iff [FiniteSource σ] {t₀ t : Tokenizer σ} {calls : List (Call σ)} {d : Record σ} :
    History t₀ calls t d ↔ (t, d) = replay t₀ calls := by
  constructor
  · intro h
    induction h with
    | start => rfl
    | call _ does ih =>
      rw [replay, List.foldl_append, ← replay, ← ih]
      exact does_iff.1 does
  · intro h
    have hstart : History t₀ [] t₀ {} := .start
    have hhistory := hstart.foldl_perform calls
    rw [replay] at h
    rwa [← h] at hhistory

end Thicket.Tokenizer
