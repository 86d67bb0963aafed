import Thicket.Proofs.Source.Texts
import Thicket.Proofs.Tokenizer.History

/-!
# What runs take in

A run that succeeds has pulled until its source had no more to give, so it has taken in the whole text that the
source hands out, and left none of it there (`Runs.intake_eq`). The runs of a history come one after another over
the sources that were bound before them: together they take in the text that the calls give them
(`given`, `History.intake_eq`).
-/

namespace Thicket.Tokenizer

variable {σ : Type}

/-! ## The text that calls give -/

/-- What a call does to the text that runs have been given and to the text that the bound source still has, if
sources hand out these texts: a run is given what the bound source still has. -/
def Call.give (content : σ → Text) (state : Text × Text) : Call σ → Text × Text
  | .bind source => (state.1, content source)
  | .run => (state.1 ++ state.2, [])
  | _ => state

/-- The text that the runs among some calls are given, and the text that the bound source has in the end. -/
def feed (content : σ → Text) (calls : List (Call σ)) : Text × Text :=
  calls.foldl (Call.give content) ([], [])

/-- The text that the runs among some calls are given. -/
def given (content : σ → Text) (calls : List (Call σ)) : Text := (feed content calls).1

/-- Rounds of binding and running are given the texts of their sources. -/
theorem given_rounds (content : σ → Text) (sources : List σ) :
    given content (sources.flatMap fun source => [.bind source, .run]) = sources.flatMap content := by
  have hrounds : ∀ before, (sources.flatMap fun source => [Call.bind source, .run]).foldl (Call.give content)
      (before, []) = (before ++ sources.flatMap content, []) := by
    induction sources with
    | nil => simp
    | cons source sources ih =>
      intro before
      rw [List.flatMap_cons, List.flatMap_cons, List.foldl_append, ← List.append_assoc]
      exact ih (before ++ content source)
  rw [given, feed, hrounds, List.nil_append]

/-! ## Runs -/

variable [Source σ]

/-- A round takes a part of the text in, and pulls nothing only at the end of the text. -/
theorem cycle_handsOut {t : Tokenizer σ} {source : σ} {text : Text} (hsource : Source.HandsOut source text)
    {n : Nat} (h : (t.cycle source).pulled = .ok n) :
    ∃ rest, text = (t.cycle source).intake ++ rest ∧ (n = 0 → rest = []) ∧
      Source.HandsOut (t.cycle source).source rest := by
  obtain ⟨pieces, t', -, hroom, hresult, heq⟩ := cycle_of_ok h
  obtain ⟨rest, htext, hcount, hend, hlater⟩ := hsource.pull (request_pos hroom)
  rw [heq]
  refine ⟨rest, htext, fun hzero => hend ?_, hlater⟩
  rw [hresult, hzero] at hcount
  exact List.eq_nil_of_length_eq_zero (Except.ok.inj hcount).symm

/-- Going on over a source takes in all that the source hands out. -/
theorem Drains.intake_eq {t : Tokenizer σ} {source : σ} {r : Run σ} (h : Drains t source r) {text : Text}
    (hsource : Source.HandsOut source text) {n : Nat} (hok : r.outcome = .ok n) :
    r.intake = text ∧ ∃ source', r.tokenizer.source = some source' ∧ Source.HandsOut source' [] := by
  induction h generalizing text n with
  | failed => cases hok
  | @ended t source hpulled =>
    obtain ⟨rest, rfl, hend, hlater⟩ := cycle_handsOut hsource hpulled
    rw [hend rfl] at hlater ⊢
    exact ⟨(List.append_nil _).symm, (t.cycle source).source, rfl, hlater⟩
  | again hpulled _ ih =>
    obtain ⟨rest, rfl, -, hlater⟩ := cycle_handsOut hsource hpulled
    obtain ⟨m, hm, -⟩ := Run.outcome_after hok
    obtain ⟨hintake, hbound⟩ := ih hlater hm
    rw [Run.intake_after, hintake]
    exact ⟨rfl, hbound⟩

/-- A run that succeeds takes in all that the bound source hands out, and leaves none of it there. -/
theorem Runs.intake_eq {t : Tokenizer σ} {r : Run σ} (h : Runs t r) (hrules : t.rules ≠ []) {text : Text}
    (hsource : ∀ source, t.source = some source → Source.HandsOut source text) {n : Nat}
    (hok : r.outcome = .ok n) :
    r.intake = text ∧ ∀ source, r.tokenizer.source = some source → Source.HandsOut source [] := by
  cases h with
  | idle hnone => exact absurd hnone hrules
  | unbound => cases hok
  | drains _ hbound hdrains =>
    obtain ⟨hintake, source', hsource', hdone⟩ := hdrains.intake_eq (hsource _ hbound) hok
    refine ⟨hintake, fun source h => ?_⟩
    obtain rfl : source' = source := Option.some.inj (hsource'.symm.trans h)
    exact hdone

/-! ## Histories -/

/-- If every run succeeds, the runs of a history take in the text that they are given, and the bound source hands
out what it still has. -/
theorem History.intake_eq {t₀ t : Tokenizer σ} {calls : List (Call σ)} {d : Record σ}
    (h : History t₀ calls t d) (hrules : t₀.rules ≠ []) (hsource : t₀.source = none) {content : σ → Text}
    (hcontent : ∀ source, .bind source ∈ calls → Source.HandsOut source (content source))
    (hok : ∀ r ∈ d.runs, r.outcome.isOk = true) :
    t.rules ≠ [] ∧ d.intake = given content calls ∧
      ∀ source, t.source = some source → Source.HandsOut source (feed content calls).2 := by
  induction h with
  | start => exact ⟨hrules, rfl, by simp [hsource]⟩
  | @call calls c t t' d d' _ does ih =>
    have hbefore : ∀ source, .bind source ∈ calls → Source.HandsOut source (content source) :=
      fun source hmem => hcontent source (List.mem_append_left _ hmem)
    rw [given, feed, List.foldl_append, List.foldl_cons, List.foldl_nil, ← feed]
    cases does with
    | registered h =>
      obtain ⟨-, rfl⟩ := register_cases h
      obtain ⟨-, hintake, hleft⟩ := ih hbefore hok
      exact ⟨List.append_ne_nil_of_right_ne_nil _ (List.cons_ne_nil _ _), hintake, hleft⟩
    | notRegistered => exact ih hbefore hok
    | bound source =>
      obtain ⟨hne, hintake, -⟩ := ih hbefore hok
      refine ⟨hne, hintake, fun source' h => ?_⟩
      obtain rfl : source = source' := Option.some.inj h
      exact hcontent source (List.mem_append_right _ List.mem_cons_self)
    | listening => exact ih hbefore hok
    | @ran r hrun =>
      obtain ⟨n, hn⟩ := Run.exists_outcome (hok r (List.mem_append_right _ List.mem_cons_self))
      obtain ⟨hne, hintake, hleft⟩ := ih hbefore fun r' hr' => hok r' (List.mem_append_left _ hr')
      obtain ⟨hrun', hdone⟩ := hrun.intake_eq hne hleft hn
      refine ⟨hrun.emits.rules ▸ hne, ?_, hdone⟩
      rw [Record.intake_addRun, hintake, hrun']
      rfl
    | popped h =>
      obtain ⟨-, heq⟩ := pop_cases h
      rw [heq]
      exact ih hbefore hok
    | notPopped => exact ih hbefore hok

end Thicket.Tokenizer
