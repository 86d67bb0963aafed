import Thicket.Matcher.Basic
import Thicket.Source.Basic
import Thicket.Symbol

/-!
# Tokenizers

A tokenizer cuts the text of its source into tokens. It keeps matchers in order of priority, a buffer
of text that is not resolved yet, and the queue of tokens that nobody has taken. Text that no matcher
recognises is dropped; a listener, if there is one, is told of it.
-/

namespace Thicket

/-- The sizes of a tokenizer's buffer, in characters. -/
structure BufferSizes where
  /-- What the buffer holds at most, and so the bound of a begun match. -/
  capacity : Nat := 200
  /-- What is asked of the source at most in one pull. -/
  pull : Nat := 10
  capacity_pos : 0 < capacity := by decide
  pull_pos : 0 < pull := by decide

namespace BufferSizes

/-- The sizes with a capacity and a pull size, neither of which may be zero. -/
def make? (capacity pull : Nat) : Except Fault BufferSizes :=
  if hc : 0 < capacity then
    if hp : 0 < pull then .ok ⟨capacity, pull, hc, hp⟩ else .error Cause.zeroPull
  else .error Cause.zeroCapacity

theorem make?_eq_ok_iff {capacity pull : Nat} {sizes : BufferSizes} :
    make? capacity pull = .ok sizes ↔ sizes.capacity = capacity ∧ sizes.pull = pull := by
  obtain ⟨c, p, hc, hp⟩ := sizes
  unfold make?
  constructor
  · intro h
    split at h
    · split at h
      · cases h
        exact ⟨rfl, rfl⟩
      · cases h
    · cases h
  · rintro ⟨rfl, rfl⟩
    rw [dif_pos hc, dif_pos hp]

/-- The sizes that hold where nothing else is said. -/
def standard : BufferSizes := {}

end BufferSizes

/-- A piece of resolved text. -/
inductive Piece where
  | token (symbol : Symbol)
  /-- Text that no matcher recognised. -/
  | dropped (text : Text)
deriving DecidableEq, Repr

namespace Piece

def text : Piece → Text
  | .token s => s.text
  | .dropped t => t

def symbol? : Piece → Option Symbol
  | .token s => some s
  | .dropped _ => none

def dropped? : Piece → Option Text
  | .token _ => none
  | .dropped t => some t

end Piece

/-- A matcher, and the id of the terminals it recognises. -/
structure Rule where
  matcher : Matcher
  id : SymbolId

/-- A tokenizer over sources of one kind. -/
structure Tokenizer (σ : Type) where
  sizes : BufferSizes := {}
  /-- The matchers, the one with the highest priority first. -/
  rules : List Rule := []
  source : Option σ := none
  /-- The name under which dropped text is reported. -/
  listener : Option Text := none
  /-- What has been reported, by listener, oldest first. -/
  reports : List (Text × Text) := []
  /-- Text that is not resolved. -/
  buffer : Text := []
  /-- How many characters of the buffer the source has accounted for. -/
  head : Nat := 0
  /-- The tokens that have not been taken, oldest first. -/
  queue : List Symbol := []

namespace Tokenizer

variable {σ : Type}

/-- Adds a matcher below those there are; id zero is kept for unresolved text. -/
def register (t : Tokenizer σ) (matcher : Matcher) (id : SymbolId) : Except Fault (Tokenizer σ) :=
  if id.isUnresolved then .error (Cause.reservedTerminal id)
  else .ok { t with rules := t.rules ++ [⟨matcher, id⟩] }

/-- Attaches a source in place of the former one; unresolved text is kept. -/
def bind (t : Tokenizer σ) (source : σ) : Tokenizer σ := { t with source := some source }

/-- Has dropped text reported to a listener in place of the former one. -/
def listen (t : Tokenizer σ) (listener : Text) : Tokenizer σ := { t with listener := some listener }

/-- Takes the oldest token. -/
def pop (t : Tokenizer σ) : Except Fault (Symbol × Tokenizer σ) :=
  match t.queue with
  | [] => .error Cause.emptyQueue
  | s :: rest => .ok (s, { t with queue := rest })

/-- The reports so far, and the tokenizer without them. -/
def takeReports (t : Tokenizer σ) : List (Text × Text) × Tokenizer σ :=
  (t.reports, { t with reports := [] })

/-- Queues the tokens and reports the dropped texts among some pieces. -/
def emit (t : Tokenizer σ) (pieces : List Piece) : Tokenizer σ :=
  { t with
    queue := t.queue ++ pieces.filterMap Piece.symbol?
    reports := t.reports ++
      match t.listener with
      | some listener => (pieces.filterMap Piece.dropped?).map (listener, ·)
      | none => [] }

end Tokenizer

end Thicket
