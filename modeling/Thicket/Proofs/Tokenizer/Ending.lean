import Thicket.Proofs.Source.Counting
import Thicket.Proofs.Tokenizer.Agreement
import Thicket.Proofs.Tokenizer.Turns

/-!
# Tokenizing ends

Resolving a buffer ends, and what it emits takes a character at least for each piece. A round of a run pulls
once at most, and a run goes on only if it was given a character. So a run over a source that hands out
finitely much ends as well, and asks the source at most once more than it is given characters
(`always_ends`). How often a source is asked is seen by watching it: a watched source answers as the source
does, and keeps the requests.
-/

namespace Thicket

/-! ## Watched sources -/

/-- A source with the requests that were made to it, in order. -/
structure Watched (σ : Type) where
  source : σ
  requests : List Nat

namespace Watched

variable {σ : Type} [Source σ]

instance : Source (Watched σ) where
  pull w most :=
    let p := Source.pull w.source most
    ⟨p.text, p.result, ⟨p.source, w.requests ++ [most]⟩⟩

instance [CountingSource σ] : CountingSource (Watched σ) where
  length_text_le w most := CountingSource.length_text_le w.source most
  length_text_of_ok w most := CountingSource.length_text_of_ok w.source most

/-- A source that is watched answers as the source does. -/
theorem agree (source : σ) (requests : List Nat) : Source.Agree source (Watched.mk source requests) := by
  intro mosts
  induction mosts generalizing source requests with
  | nil => rfl
  | cons most mosts ih => exact congrArg _ (ih (Source.pull source most).source (requests ++ [most]))

end Watched

/-! ## What resolving emits -/

/-- Pieces of which none is empty cover as many characters as they are, at least. -/
theorem Piece.length_le_length_texts {pieces : List Piece} (hne : ∀ p ∈ pieces, p.text ≠ []) :
    pieces.length ≤ (texts pieces).length := by
  induction pieces with
  | nil => exact Nat.le_refl 0
  | cons p pieces ih =>
    rw [List.forall_mem_cons] at hne
    have hpos := List.length_pos_of_ne_nil hne.1
    have hlater := ih hne.2
    rw [texts_cons, List.length_cons, List.length_append]
    omega

/-- A piece is a token or a dropped text. -/
theorem Piece.length_eq_add (pieces : List Piece) :
    (tokens pieces).length + (pieces.filterMap dropped?).length = pieces.length := by
  induction pieces with
  | nil => rfl
  | cons p pieces ih =>
    cases p with
    | token s =>
      show (tokens pieces).length + 1 + (pieces.filterMap dropped?).length = pieces.length + 1
      omega
    | dropped t =>
      show (tokens pieces).length + ((pieces.filterMap dropped?).length + 1) = pieces.length + 1
      omega

namespace Tokenizer

/-- A text resolves to no more pieces than it has characters. -/
theorem length_pieces_le (capacity : Nat) (rules : List Rule) (t : Text) :
    (resolveText capacity rules t).pieces.length ≤ t.length := by
  obtain ⟨rest, htexts, -⟩ := resolveSegments_tiles capacity rules [.unresolved t]
  have hall : Piece.texts (resolveText capacity rules t).pieces ++ rest = t := by
    rw [resolveText, htexts, Segment.texts_cons, Segment.text, Segment.texts_nil, List.append_nil]
  have hlength := congrArg List.length hall
  rw [List.length_append] at hlength
  have hne : ∀ p ∈ (resolveText capacity rules t).pieces, p.text ≠ [] := resolveText_pieces_ne_nil
  have hcount := Piece.length_le_length_texts hne
  omega

variable {σ τ : Type} [Source σ] [Source τ] {t : Tokenizer σ} {source : σ} {n : Nat}

/-! ## Rounds -/

/-- The text that the first rounds of a run take in, each of them some. -/
inductive Draws : Tokenizer σ → σ → Text → Prop
  | none (t : Tokenizer σ) (source : σ) : Draws t source []
  | round {t : Tokenizer σ} {source : σ} {count : Nat} {later : Text}
      (hpulled : (t.cycle source).pulled = .ok (count + 1))
      (hlater : Draws (t.cycle source).tokenizer (t.cycle source).source later) :
      Draws t source ((t.cycle source).intake ++ later)

/-- What is drawn from one source is drawn from any that agrees with it. -/
theorem Draws.agree {text : Text} (h : Draws t source text) {t' : Tokenizer τ} {source' : τ}
    (ht : t.withSource t'.source = t') (hsource : Source.Agree source source') :
    Draws t' source' text := by
  induction h generalizing t' source' with
  | none => exact .none t' source'
  | round hpulled _ ih =>
    have hc := cycle_agree ht hsource
    rw [hc.intake]
    exact .round (hc.pulled ▸ hpulled) (ih hc.tokenizer hc.source)

section Counting

variable [CountingSource σ]

/-- What a round that succeeds takes in is as long as it says. -/
theorem length_intake_cycle {count : Nat} (h : (t.cycle source).pulled = .ok count) :
    (t.cycle source).intake.length = count := by
  obtain ⟨pieces, t', -, -, hresult, hcycle⟩ := cycle_of_ok h
  rw [hcycle]
  exact CountingSource.length_text_of_ok source t'.request count hresult

/-- If the rounds of a run take in so much at most, the run ends. -/
theorem exists_drains (h : ∀ text, Draws t source text → text.length ≤ n) :
    ∃ r, Drains t source r := by
  induction n using Nat.strongRecOn generalizing t source with
  | _ n ih =>
    cases hpulled : (t.cycle source).pulled with
    | error e => exact ⟨_, .failed hpulled⟩
    | ok count =>
      cases count with
      | zero => exact ⟨_, .ended hpulled⟩
      | succ count =>
        have hintake := length_intake_cycle hpulled
        have hroom := h _ (.round hpulled (.none _ _))
        rw [List.append_nil, hintake] at hroom
        -- what this round takes in, the later ones cannot
        have hlater : ∀ text, Draws (t.cycle source).tokenizer (t.cycle source).source text →
            text.length ≤ n - (count + 1) := by
          intro text htext
          have hall := h _ (.round hpulled htext)
          rw [List.length_append, hintake] at hall
          omega
        obtain ⟨later, hdrains⟩ := ih (n - (count + 1)) (by omega) hlater
        exact ⟨_, .again hpulled hdrains⟩

/-- If every pull that hands out text lowers what is left of a source by as much, no more than that is
drawn. -/
theorem Draws.length_le {text : Text} (h : Draws t source text) (left : σ → Nat)
    (hleft : ∀ (source : σ) (most count : Nat), (Source.pull source most).result = .ok (count + 1) →
      left (Source.pull source most).source + (count + 1) ≤ left source) :
    text.length ≤ left source := by
  induction h with
  | none => exact Nat.zero_le _
  | @round t source count later hpulled _ ih =>
    have hintake := length_intake_cycle hpulled
    obtain ⟨pieces, t', -, -, hresult, hcycle⟩ := cycle_of_ok hpulled
    have hlower := hleft source t'.request count hresult
    rw [hcycle] at ih
    rw [List.length_append, hintake]
    have : later.length ≤ left (Source.pull source t'.request).source := ih
    omega

/-! ## Requests -/

omit [CountingSource σ] in
/-- A round makes no request, or the one of the tokenizer that has settled. -/
theorem requests_cycle (t : Tokenizer (Watched σ)) (w : Watched σ) :
    (t.cycle w).source.requests = w.requests ∨
      ∃ pieces asker, t.settle = (pieces, none, asker) ∧
        (t.cycle w).source.requests = w.requests ++ [asker.request] := by
  obtain ⟨_, _, _, -, h⟩ | ⟨pieces, asker, hsettle, -, h⟩ := cycle_cases t w <;> rw [h]
  · exact .inl rfl
  · exact .inr ⟨pieces, asker, hsettle, rfl⟩

omit [CountingSource σ] in
/-- A round makes one request at most. -/
theorem length_requests_cycle (t : Tokenizer (Watched σ)) (w : Watched σ) :
    (t.cycle w).source.requests.length ≤ w.requests.length + 1 := by
  obtain hnone | ⟨_, _, -, hone⟩ := requests_cycle t w
  · rw [hnone]
    exact Nat.le_succ _
  · rw [hone]
    exact Nat.le_of_eq List.length_append

/-- A run asks a source at most once more than it draws characters from it. -/
theorem Drains.length_requests {t : Tokenizer (Watched σ)} {w : Watched σ} {r : Run (Watched σ)}
    (h : Drains t w r) : ∃ w' text, r.tokenizer.source = some w' ∧ Draws t w text ∧
      w'.requests.length ≤ w.requests.length + text.length + 1 := by
  induction h with
  | @failed t w => exact ⟨_, [], rfl, .none t w, length_requests_cycle t w⟩
  | @ended t w => exact ⟨_, [], rfl, .none t w, length_requests_cycle t w⟩
  | @again t w count later hpulled _ ih =>
    obtain ⟨w', text, hsource, hdraws, hlength⟩ := ih
    have hrequests := length_requests_cycle t w
    have hintake := length_intake_cycle hpulled
    refine ⟨w', _, hsource, .round hpulled hdraws, ?_⟩
    rw [List.length_append, hintake]
    omega

theorem Runs.length_requests {t : Tokenizer (Watched σ)} {w : Watched σ} (hsource : t.source = some w)
    {r : Run (Watched σ)} (h : Runs t r) : ∃ w' text, r.tokenizer.source = some w' ∧ Draws t w text ∧
      w'.requests.length ≤ w.requests.length + text.length + 1 := by
  cases h with
  | idle => exact ⟨w, [], hsource, .none t w, Nat.le_succ _⟩
  | unbound _ hnone =>
    rw [hsource] at hnone
    cases hnone
  | drains _ hsome hdrains =>
    rw [hsource] at hsome
    cases hsome
    exact hdrains.length_requests

/-! ## Tokenizing -/

/-- With lawful matchers, whatever the buffer is, the loop that resolves it ends after at most three turns for
each character and one more, with what the buffer resolves to; and the tokens and dropped texts that it emits
are together no more than the characters.

If a source that counts what it hands out is bound, and the rounds of the run draw no more than some number of
characters from it, the run ends; and if the source is watched, then the same run has asked it at most once
more than characters were drawn. -/
theorem always_ends (t : Tokenizer σ) (hrules : ∀ r ∈ t.rules, r.matcher.Lawful) :
    Loop.EndsWithin t.sizes.capacity t.rules t.buffer (3 * t.buffer.length + 1) (.start t.buffer)
      t.resolution ∧
    t.resolve.1 = t.resolution.pieces ∧
    (Piece.tokens t.resolve.1).length + (t.resolve.1.filterMap Piece.dropped?).length ≤ t.buffer.length ∧
    ∀ source n, t.source = some source → (∀ text, Draws t source text → text.length ≤ n) →
      ∃ (r : Run σ) (r' : Run (Watched σ)) (w : Watched σ) (text : Text),
        Runs t r ∧ Runs (t.withSource (some (Watched.mk source []))) r' ∧ r.Agree r' ∧
        r'.tokenizer.source = some w ∧ Draws t source text ∧ text.length ≤ n ∧
        w.requests.length ≤ text.length + 1 := by
  have hpieces : t.resolve.1 = t.resolution.pieces := by
    unfold resolve
    dsimp only
    split <;> rfl
  refine ⟨Loop.endsWithin_start t.sizes.capacity hrules t.buffer, hpieces, ?_, ?_⟩
  · rw [Piece.length_eq_add, hpieces]
    exact length_pieces_le t.sizes.capacity t.rules t.buffer
  · intro source n hsource hdraws
    have hruns : ∃ r, Runs t r := by
      by_cases hnil : t.rules = []
      · exact ⟨_, .idle hnil⟩
      · obtain ⟨r, hdrains⟩ := exists_drains hdraws
        exact ⟨r, .drains hnil hsource hdrains⟩
    obtain ⟨r, hr⟩ := hruns
    have hagree : t.Agree (t.withSource (some (Watched.mk source []))) := by
      refine ⟨rfl, ?_⟩
      rw [hsource]
      exact .some (Watched.agree source [])
    obtain ⟨r', hr', hsame⟩ := hr.agree hagree
    obtain ⟨w, text, hw, htext, hrequests⟩ := hr'.length_requests rfl
    -- what the watched source hands out, the source does
    have hback : Source.Agree (Watched.mk source []) source :=
      fun mosts => (Watched.agree source [] mosts).symm
    have htext' : Draws t source text := htext.agree rfl hback
    rw [List.length_nil, Nat.zero_add] at hrequests
    exact ⟨r, r', w, text, hr, hr', hsame, hw, htext', hdraws text htext', hrequests⟩

end Counting

/-- The buffer holds a dropped text, two tokens and the beginning of a third one, and the source what is
missing of it and the beginning of another: three characters, so there are four requests at most. -/
theorem always_ends_with_carried :
    let source : CharSource := ⟨['y', 'z', 'x']⟩
    let t : Tokenizer CharSource :=
      { sizes := ⟨5, 3, by decide, by decide⟩
        rules := [⟨.literal ['+'], 1⟩, ⟨.literal ['x', 'y', 'z'], 2⟩, ⟨.literal ['x'], 3⟩]
        source := some source, buffer := ['é', 'x', '+', 'x'], head := 4 }
    Loop.EndsWithin 5 t.rules t.buffer 13 (.start t.buffer)
      ⟨[.dropped ['é'], .token ⟨3, ['x']⟩, .token ⟨1, ['+']⟩], .ok ['x']⟩ ∧
      t.run.pieces = [.dropped ['é'], .token ⟨3, ['x']⟩, .token ⟨1, ['+']⟩, .token ⟨2, ['x', 'y', 'z']⟩] ∧
      ∃ (r : Run (Watched CharSource)) (w : Watched CharSource),
        Runs (t.withSource (some (Watched.mk source []))) r ∧ t.run.Agree r ∧
        r.tokenizer.source = some w ∧ w.requests.length ≤ 4 := by
  intro source t
  have hrules : ∀ r ∈ t.rules, r.matcher.Lawful := by
    intro r hr
    simp only [t, List.mem_cons, List.not_mem_nil, or_false] at hr
    rcases hr with rfl | rfl | rfl <;> exact Matcher.lawful_literal _
  have hdraws : ∀ text, Draws t source text → text.length ≤ 3 := by
    intro text htext
    refine htext.length_le (fun source => source.rest.length) ?_
    intro source most count hpulled
    have htaken : min most source.rest.length = count + 1 := by
      rw [← List.length_take]
      exact Except.ok.inj hpulled
    show (source.rest.drop most).length + (count + 1) ≤ source.rest.length
    rw [List.length_drop]
    omega
  have hpieces : t.resolution.pieces = [.dropped ['é'], .token ⟨3, ['x']⟩, .token ⟨1, ['+']⟩] := by
    decide +kernel
  have hcarried : t.resolution.carried = .ok ['x'] := by decide +kernel
  obtain ⟨hends, -, -, hall⟩ := always_ends t hrules
  obtain ⟨r, r', w, text, hr, hr', hagree, hw, -, hlength, hrequests⟩ := hall source 3 rfl hdraws
  have hends : Loop.EndsWithin 5 t.rules t.buffer 13 (.start t.buffer)
      ⟨t.resolution.pieces, t.resolution.carried⟩ := hends
  rw [hpieces, hcarried] at hends
  rw [runs_iff.1 hr] at hagree
  exact ⟨hends, by decide +kernel, r', w, hr', hagree, hw, by omega⟩

end Tokenizer

end Thicket
