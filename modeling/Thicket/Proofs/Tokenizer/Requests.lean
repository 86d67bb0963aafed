import Thicket.Proofs.Tokenizer.Ending
import Thicket.Proofs.Tokenizer.Standstill
import Thicket.Source.Either
import Thicket.Source.Playback

/-!
# What a source is asked for

A round asks its source for as much as is free in the buffer, up to the pull size. The head need not count what
the buffer holds: a source may hand out more than it was asked for, or fail after it has handed out some text.
This makes no difference to the next request. A tokenizer that has settled counts nothing, or the text that it
carries over, which is shorter than the capacity; so there is room, and the request is for one character at
least and fits (`usable_of_settle`). A source that answers with no character was asked for some, and no round
finds the buffer full (`requests_usable`).
-/

namespace Thicket.Tokenizer

variable {σ : Type}

/-! ## One request -/

/-- A tokenizer that counts less than the capacity, and the request of which is for something and fits. -/
structure Usable (t : Tokenizer σ) (capacity pull : Nat) : Prop where
  room : t.head < capacity
  pos : 1 ≤ t.request
  le_pull : t.request ≤ pull
  fits : t.head + t.request ≤ capacity

/-- Whatever is in the buffer and whatever the head counts, after settling there is a usable request. -/
theorem usable_of_settle {t asker : Tokenizer σ} {pieces : List Piece}
    (h : t.settle = (pieces, none, asker)) : asker.Usable t.sizes.capacity t.sizes.pull := by
  have hsizes : asker.sizes = t.sizes := by
    have hemits := t.settle_emits
    rw [h] at hemits
    exact hemits.sizes
  have hroom := head_lt_of_settle h
  have hpos := request_pos hroom
  rw [hsizes] at hroom
  have hrequest : asker.request = min (t.sizes.capacity - asker.head) t.sizes.pull := by
    rw [request, hsizes]
  constructor <;> omega

variable [Source σ]

/-- The round of a tokenizer that has settled and asks its source. -/
def ask (asker : Tokenizer σ) (pieces : List Piece) (source : σ) : Cycle σ :=
  let p := Source.pull source asker.request
  ⟨pieces, p.text, p.result, asker.receive p.text p.result, p.source⟩

/-! ## The requests of a run -/

/-- The run of a tokenizer comes to a round in which `asker` has settled and asks the source. -/
def Asks (t asker : Tokenizer σ) (source : σ) : Prop :=
  ∃ t' pieces, Reaches t t' source ∧ t'.settle = (pieces, none, asker)

/-- Of the requests to the source `w'`, those that `w` has not had yet are what tokenizers that had settled asked
for, one a round. -/
def AskedOf (t : Tokenizer (Watched σ)) (w w' : Watched σ) : Prop :=
  ∃ askers : List (Tokenizer (Watched σ)), w'.requests = w.requests ++ askers.map request ∧
    ∀ asker ∈ askers, ∃ w'', Asks t asker w''

/-- A round adds its own request to those before it, if it comes to one. -/
theorem Reaches.askedOf_cycle {t t' : Tokenizer (Watched σ)} {w w' : Watched σ} (h : Reaches t t' w')
    (hasked : t.AskedOf w w') : t.AskedOf w (t'.cycle w').source := by
  obtain ⟨askers, hrequests, hasks⟩ := hasked
  obtain hnone | ⟨pieces, asker, hsettle, hone⟩ := requests_cycle t' w'
  · exact ⟨askers, hnone.trans hrequests, hasks⟩
  · refine ⟨askers ++ [asker], ?_, ?_⟩
    · rw [hone, hrequests, List.map_append, List.append_assoc, List.map_singleton]
    · intro a ha
      rcases List.mem_append.1 ha with ha | ha
      · exact hasks a ha
      · rw [List.mem_singleton.1 ha]
        exact ⟨w', t', pieces, h, hsettle⟩

/-- Whatever round a run over a watched source has come to, its requests so far are those of its rounds. -/
theorem Reaches.askedOf {t t' : Tokenizer (Watched σ)} {w w' : Watched σ} (h : Reaches t t' w')
    (hsource : t.source = some w) : t.AskedOf w w' := by
  induction h with
  | start _ hsome =>
    obtain rfl : w = _ := Option.some.inj (hsource.symm.trans hsome)
    exact ⟨[], (List.append_nil _).symm, nofun⟩
  | next before _ ih => exact before.askedOf_cycle ih

/-- A run reports a full buffer only in the words of its source. -/
theorem Runs.asks_of_fullBuffer {t : Tokenizer σ} {r : Run σ} (h : Runs t r) {capacity : Nat}
    (he : r.outcome = .error (Cause.fullBuffer capacity)) :
    ∃ asker source, Asks t asker source ∧
      (Source.pull source asker.request).result = .error (Cause.fullBuffer capacity) := by
  cases h with
  | idle => cases he
  | unbound => cases he
  | drains hrules hsource hdrains =>
    obtain ⟨t', source, hreaches, hpulled⟩ := Reaches.exists_failed (.start hrules hsource) hdrains he
    obtain ⟨pieces, e, asker, hsettle, hcycle⟩ | ⟨pieces, asker, hsettle, -, hcycle⟩ :=
      cycle_cases t' source <;> rw [hcycle] at hpulled
    · rw [eq_longPartial_of_settle hsettle] at hpulled
      cases hpulled
    · exact ⟨asker, source, ⟨t', pieces, hreaches, hsettle⟩, hpulled⟩

/-- With sizes that were accepted, whatever the matchers answer: a tokenizer that settles, whatever is in its
buffer and whatever its head counts, has room, and its round asks the source for at least one character, at
most as many as the pull size and no more than fit.

In every history, whatever its sources do, the rounds of a run are rounds of tokenizers with these sizes; what
a watched source is asked for in a run is what these ask for, one a round; and a run reports a full buffer only
if its source does. -/
theorem requests_usable {capacity pull : Nat} {sizes : BufferSizes}
    (hsizes : BufferSizes.make? capacity pull = .ok sizes) :
    (∀ (t : Tokenizer σ) (source : σ) (pieces : List Piece) (asker : Tokenizer σ), t.sizes = sizes →
      t.settle = (pieces, none, asker) →
        asker.Usable capacity pull ∧ t.cycle source = asker.ask pieces source) ∧
    ∀ (calls : List (Call σ)) (t : Tokenizer σ) (d : Record σ), History { sizes } calls t d →
      (∀ t' source, Reaches t t' source → t'.sizes = sizes) ∧
      (∀ source t' w, t.source = some source →
        Reaches (t.withSource (some (Watched.mk source []))) t' w →
        ∃ askers : List (Tokenizer (Watched σ)), (t'.cycle w).source.requests = askers.map request ∧
          ∀ asker ∈ askers, asker.Usable capacity pull ∧
            ∃ w', Asks (t.withSource (some (Watched.mk source []))) asker w') ∧
      ∀ r, Runs t r → r.outcome = .error (Cause.fullBuffer capacity) →
        ∃ asker source, Asks t asker source ∧
          (Source.pull source asker.request).result = .error (Cause.fullBuffer capacity) := by
  obtain ⟨rfl, rfl⟩ := BufferSizes.make?_eq_ok_iff.1 hsizes
  refine ⟨?_, ?_⟩
  · rintro t source pieces asker rfl hsettle
    exact ⟨usable_of_settle hsettle, cycle_of_settle hsettle source⟩
  · intro calls t d h
    have ht := h.sizes_eq
    refine ⟨fun t' source hreaches => hreaches.sizes_eq.trans ht, ?_, fun r hr he => hr.asks_of_fullBuffer he⟩
    intro source t' w _ hreaches
    obtain ⟨askers, hrequests, hasks⟩ := hreaches.askedOf_cycle (hreaches.askedOf rfl)
    refine ⟨askers, hrequests, ?_⟩
    intro asker hasker
    obtain ⟨w', t'', pieces, hreaches', hsettle⟩ := hasks asker hasker
    have husable := usable_of_settle hsettle
    rw [hreaches'.sizes_eq] at husable
    rw [← ht]
    exact ⟨husable, w', t'', pieces, hreaches', hsettle⟩

/-- With room for four characters, a failed run leaves two in the buffer that the head does not count, and
then a source that is asked for three hands out seven. Of these nine three are carried over, and so the next
request is for one character. -/
theorem requests_usable_overfull :
    let calls : List (Call (Playback ⊕ LineSource)) := [.register (.literal ['a', 'b']) 1,
      .bind (.inr (.ofReader ⟨[], [.bytes [0x61, 0x0A], .failure .brokenPipe]⟩)), .run,
      .bind (.inl ⟨[.give "xxabxxa".toList, .give ['b']]⟩)]
    let t := (replay { sizes := ⟨4, 3, by decide, by decide⟩ } calls).1
    let source : Playback ⊕ LineSource := .inl ⟨[.give "xxabxxa".toList, .give ['b']]⟩
    let first := t.cycle source
    let asker := first.tokenizer.settle.2.2
    (t.head, t.buffer.length) = (0, 2) ∧ (first.tokenizer.head, first.tokenizer.buffer.length) = (7, 9) ∧
      (asker.head, asker.request) = (3, 1) ∧ asker.Usable 4 3 ∧
      first.tokenizer.cycle first.source = asker.ask first.tokenizer.settle.1 first.source ∧
      ∃ askers : List (Tokenizer (Watched (Playback ⊕ LineSource))),
        askers.map request = [3, 1] ∧ ∀ a ∈ askers, a.Usable 4 3 := by
  intro calls t source first asker
  have hmake : BufferSizes.make? 4 3 = .ok ⟨4, 3, by decide, by decide⟩ := rfl
  obtain ⟨hasks, hhistories⟩ := requests_usable (σ := Playback ⊕ LineSource) hmake
  obtain ⟨hreached, hrequests, -⟩ := hhistories calls t _ (history_iff.2 rfl)
  have hrules : t.rules ≠ [] := by decide +kernel
  have hsource : t.source = some source := rfl
  -- the round as it is, and over the watched source
  have hpulled : (t.cycle source).pulled = .ok (6 + 1) := by decide +kernel
  have hsizes := hreached _ _ (.next (.start hrules hsource) hpulled)
  have hsettle : first.tokenizer.settle = (first.tokenizer.settle.1, none, asker) := by
    have hnone : first.tokenizer.settle.2.1 = none := by decide +kernel
    rw [← hnone]
  obtain ⟨husable, hcycle⟩ := hasks _ first.source _ _ hsizes hsettle
  let watched := Watched.mk source []
  have hwatched : ((t.withSource (some watched)).cycle watched).pulled = .ok (6 + 1) := by decide +kernel
  obtain ⟨askers, hlog, hall⟩ := hrequests source _ _ hsource
    (.next (.start hrules rfl) hwatched)
  refine ⟨by decide +kernel, by decide +kernel, by decide +kernel, husable, hcycle, askers, ?_,
    fun a ha => (hall a ha).1⟩
  rw [← hlog]
  decide +kernel

end Thicket.Tokenizer
