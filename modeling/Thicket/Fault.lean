import Thicket.Text.Quoted

/-!
# Faults

A fault is a cause, with the contexts it was met in. A cause belongs to one of four categories, and
the message of a fault is the lead of its category, the contexts from the outermost to the innermost,
and the description of the cause.
-/

namespace Thicket

/-! ## Failures of the input -/

/-- The kinds of failure that reading input can meet. -/
inductive InputKind where
  | notFound
  | unexpectedEnd
  | invalidData
  | brokenPipe
  | interrupted
  | other
deriving DecidableEq, Repr

/-- The description of a failure that has none of its own. -/
def InputKind.description : InputKind → String
  | .notFound => "entity not found"
  | .unexpectedEnd => "unexpected end of file"
  | .invalidData => "invalid data"
  | .brokenPipe => "broken pipe"
  | .interrupted => "operation interrupted"
  | .other => "other error"

/-- A failure to read input, with its own description if it has one. -/
structure InputFailure where
  kind : InputKind
  text : Option Text := none
deriving DecidableEq, Repr

def InputFailure.description (e : InputFailure) : String :=
  match e.text with
  | some text => String.ofList text
  | none => e.kind.description

/-- Bytes that are no UTF-8. -/
def InputFailure.notUtf8 : InputFailure :=
  ⟨.invalidData, some "stream did not contain valid UTF-8".toList⟩

/-! ## Categories and causes -/

/-- What a fault lies in. -/
inductive FaultCategory where
  /-- Something was set up with values that make no sense. -/
  | configuration
  /-- Something was asked for that has to be prepared first. -/
  | precondition
  /-- A limit was reached. -/
  | exhausted
  /-- Reading input failed. -/
  | input
deriving DecidableEq, Repr

def FaultCategory.lead : FaultCategory → String
  | .configuration => "configuration error: "
  | .precondition => "precondition violated: "
  | .exhausted => "resource exhausted: "
  | .input => "input error: "

/-- The causes of faults. -/
inductive Cause where
  | zeroCapacity
  | zeroPull
  | zeroReductionLimit
  | reservedTerminal (id : Nat)
  | reservedNonterminal (id : Nat)
  | invalidPattern (pattern : Text)
  | unpursuedPattern (pattern : Text)
  | crossedBounds (id least most : Nat)
  | noSequences
  | emptySequence (index : Nat)
  | noSource
  | noQueue
  | emptyQueue
  | undefinedProduction (id : Nat)
  | fullBuffer (capacity : Nat)
  | longPartial (capacity : Nat)
  | reductionLimit (limit : Nat)
  | input (failure : InputFailure)
  /-- A misconfiguration in the caller's words. -/
  | misconfigured (text : Text)
  /-- A missing preparation in the caller's words. -/
  | unprepared (text : Text)
  /-- A limit in the caller's words. -/
  | limited (text : Text)
deriving DecidableEq, Repr

namespace Cause

def category : Cause → FaultCategory
  | .zeroCapacity | .zeroPull | .zeroReductionLimit | .reservedTerminal _ | .reservedNonterminal _
  | .invalidPattern _ | .unpursuedPattern _ | .crossedBounds .. | .noSequences | .emptySequence _
  | .misconfigured _ => .configuration
  | .noSource | .noQueue | .emptyQueue | .undefinedProduction _ | .unprepared _ => .precondition
  | .fullBuffer _ | .longPartial _ | .reductionLimit _ | .limited _ => .exhausted
  | .input _ => .input

def description : Cause → String
  | .zeroCapacity => "buffer capacity must be nonzero"
  | .zeroPull => "pull size must be nonzero"
  | .zeroReductionLimit => "reduction limit must be nonzero"
  | .reservedTerminal id => s!"terminal id {id} is reserved for unresolved text"
  | .reservedNonterminal id => s!"nonterminal id {id} is reserved for unresolved text"
  | .invalidPattern pattern => "invalid pattern " ++ String.ofList pattern.quoted ++ ": "
  | .unpursuedPattern pattern =>
    "cannot build prefix matcher for " ++ String.ofList pattern.quoted ++ ": "
  | .crossedBounds id least most =>
    s!"sequence node for {id} has minimum {least} greater than maximum {most}"
  | .noSequences => "definition has no sequences"
  | .emptySequence index => s!"sequence {index} is empty"
  | .noSource => "tokenizer run without a bound source"
  | .noQueue => "parser run without a bound token queue"
  | .emptyQueue => "popped from an empty token queue"
  | .undefinedProduction id => s!"undefined production {id}"
  | .fullBuffer capacity => s!"buffer of {capacity} characters is full and cannot be resolved"
  | .longPartial capacity =>
    s!"partial match needs more than the buffer capacity of {capacity} characters"
  | .reductionLimit limit =>
    s!"more than {limit} reductions after one token; does the grammar have a cycle?"
  | .input failure => failure.description
  | .misconfigured text | .unprepared text | .limited text => String.ofList text

end Cause

/-! ## Faults -/

/-- A cause with the contexts it was met in, innermost first. -/
structure Fault where
  cause : Cause
  contexts : List Text := []
deriving DecidableEq, Repr

namespace Fault

instance : Coe Cause Fault := ⟨fun cause => ⟨cause, []⟩⟩

def category (e : Fault) : FaultCategory := e.cause.category

/-- The same fault, seen from a wider context. -/
def within (e : Fault) (context : Text) : Fault := { e with contexts := e.contexts ++ [context] }

/-- The contexts, outermost first, and the description of the cause. -/
def description (e : Fault) : String :=
  e.contexts.foldl (fun text context => String.ofList context ++ ": " ++ text) e.cause.description

def message (e : Fault) : String := e.category.lead ++ e.description

/-- The failure to read input behind a fault, as it is seen in the fault's contexts. -/
def inputFailure? (e : Fault) : Option InputFailure :=
  match e.cause with
  | .input failure =>
    some (if e.contexts.isEmpty then failure else ⟨failure.kind, some e.description.toList⟩)
  | _ => none

end Fault

end Thicket
