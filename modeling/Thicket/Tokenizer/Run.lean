import Thicket.Tokenizer.Resolve

/-!
# Running a tokenizer

A run alternates between resolving the buffer and pulling more text into it, until the source has no
more to give or something fails. Text that is carried over at the end stays in the buffer for a later
run. Whatever was emitted before a failure stays emitted, and a failed resolution leaves the buffer as
it was.

A run ends because every pull that hands out text lowers the supply of the source.
-/

namespace Thicket.Tokenizer

variable {σ : Type}

/-- Resolves the buffer: the pieces it was cut into, the fault if too much would have to be carried
over, and the tokenizer after it. -/
def resolve (t : Tokenizer σ) : List Piece × Option Fault × Tokenizer σ :=
  let r := resolveText t.sizes.capacity t.rules t.buffer
  match r.carried with
  | .ok text => (r.pieces, none, { t.emit r.pieces with buffer := text, head := text.length })
  | .error e => (r.pieces, some e, t.emit r.pieces)

/-- One round of a run: the pieces that were emitted, the text that was taken in, how many characters
were pulled, and what the tokenizer and the source have become. -/
structure Cycle (σ : Type) where
  pieces : List Piece
  intake : Text
  pulled : Except Fault Nat
  tokenizer : Tokenizer σ
  source : σ

/-- Resolves the buffer if the source has accounted for any of it. -/
def settle (t : Tokenizer σ) : List Piece × Option Fault × Tokenizer σ :=
  if 0 < t.head then t.resolve else ([], none, t)

/-- How much may be asked of the source: what is free in the buffer, up to the pull size. -/
def request (t : Tokenizer σ) : Nat := min (t.sizes.capacity - t.head) t.sizes.pull

/-- Adds pulled text to the buffer, and its count if the pull succeeded. -/
def receive (t : Tokenizer σ) (text : Text) (pulled : Except Fault Nat) : Tokenizer σ :=
  { t with
    buffer := t.buffer ++ text
    head := match pulled with
      | .ok count => t.head + count
      | .error _ => t.head }

/-- Resolves what is there and then pulls once, if there is room. -/
def cycle [Source σ] (t : Tokenizer σ) (source : σ) : Cycle σ :=
  match t.settle with
  | (pieces, some e, t) => ⟨pieces, [], .error e, t, source⟩
  | (pieces, none, t) =>
    if t.sizes.capacity ≤ t.head then
      ⟨pieces, [], .error (Cause.fullBuffer t.sizes.capacity), t, source⟩
    else
      let p := Source.pull source t.request
      ⟨pieces, p.text, p.result, t.receive p.text p.result, p.source⟩

/-- A round that pulls something lowers the supply of the source. -/
theorem supply_cycle_lt [FiniteSource σ] {t : Tokenizer σ} {source : σ} {count : Nat}
    (h : (t.cycle source).pulled = .ok (count + 1)) :
    FiniteSource.supply (t.cycle source).source < FiniteSource.supply source := by
  unfold cycle at h ⊢
  split at h
  · cases h
  · split at h
    · cases h
    · next hroom => simpa [hroom] using FiniteSource.supply_lt _ _ _ h

/-- The number of tokens among some pieces. -/
def tokenCount (pieces : List Piece) : Nat := (pieces.filterMap Piece.symbol?).length

/-- What a run has done: the pieces it emitted, in order, the text it took in, the number of tokens
among the pieces or the fault that ended it, and the tokenizer after it. -/
structure Run (σ : Type) where
  pieces : List Piece
  intake : Text
  outcome : Except Fault Nat
  tokenizer : Tokenizer σ

/-- The run that ends with a round; the tokenizer keeps the source. -/
def Cycle.finish (c : Cycle σ) (outcome : Except Fault Nat) : Run σ :=
  ⟨c.pieces, c.intake, outcome, c.tokenizer.bind c.source⟩

/-- A run with a round before it. -/
def Run.after (later : Run σ) (c : Cycle σ) : Run σ :=
  ⟨c.pieces ++ later.pieces, c.intake ++ later.intake,
    later.outcome.map (tokenCount c.pieces + ·), later.tokenizer⟩

/-- Runs on over a source until it has no more to give. -/
def drain [FiniteSource σ] (t : Tokenizer σ) (source : σ) : Run σ :=
  let c := t.cycle source
  match _pulled : c.pulled with
  | .error e => c.finish (.error e)
  | .ok 0 => c.finish (.ok (tokenCount c.pieces))
  | .ok (_ + 1) => (drain c.tokenizer c.source).after c
termination_by FiniteSource.supply source
decreasing_by exact supply_cycle_lt _pulled

/-- Cuts the text of the bound source into tokens until it has no more to give. Without a rule there
is nothing to do. -/
def run [FiniteSource σ] (t : Tokenizer σ) : Run σ :=
  if t.rules.isEmpty then ⟨[], [], .ok 0, t⟩
  else
    match t.source with
    | none => ⟨[], [], .error Cause.noSource, t⟩
    | some source => t.drain source

end Thicket.Tokenizer
