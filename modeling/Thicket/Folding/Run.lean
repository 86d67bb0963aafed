import Thicket.Folding.Queue
import Thicket.Folding.Reduction

/-!
# Running a parser

A parser keeps the roots folded so far. A run takes the tokens that are ready when it begins; each
becomes a root, and after each the roots are folded as far as they go, with open matches waiting for
the tokens to come. After too many folds for one token the run ends with a fault, and so it does when
the queue fails; the roots stay as they are then, and the queue stays bound.
-/

namespace Thicket

/-- The most folds after one token. -/
structure FoldLimit where
  most : Nat := 10000
  most_pos : 0 < most := by decide

/-- The limit with a number of folds, which may not be zero. -/
def FoldLimit.make? (most : Nat) : Except Fault FoldLimit :=
  if h : 0 < most then .ok ⟨most, h⟩ else .error Cause.zeroReductionLimit

/-- A bottom-up parser over token queues of one kind. -/
structure Parser (κ : Type) where
  limit : FoldLimit := {}
  grammar : Grammar := {}
  queue : Option κ := none
  roots : Forest := []

namespace Parser

variable {κ : Type}

/-- Attaches a queue in place of the former one. -/
def bind (p : Parser κ) (queue : κ) : Parser κ := { p with queue := some queue }

/-- Takes another grammar; limit, queue and roots are kept. -/
def withGrammar (p : Parser κ) (grammar : Grammar) : Parser κ := { p with grammar }

/-- Defines a nonterminal. -/
def addProduction (p : Parser κ) (id : SymbolId) (alternatives : List Sequence) :
    Except Fault (Parser κ) :=
  (p.grammar.add id alternatives).map p.withGrammar

/-- Folds once, with no more tokens to come, and tells whether there was anything to fold. -/
def reduce (p : Parser κ) : Bool × Parser κ :=
  match p.grammar.due? false p.roots with
  | some r => (true, { p with roots := r.apply p.roots })
  | none => (false, p)

/-- What taking tokens has come to: the tokens taken and the nodes made, in order, the fault that
ended it early, the roots, and the queue. -/
structure Consumed (κ : Type) where
  taken : List Symbol
  made : List Node
  fault : Option Fault
  roots : Forest
  queue : κ

/-- A token taken, and the nodes made after it, before what taking more has come to. -/
def Consumed.after (later : Consumed κ) (token : Symbol) (made : List Node) : Consumed κ :=
  { later with taken := token :: later.taken, made := made ++ later.made }

/-- Takes a number of tokens from a queue and folds after each. -/
def consume [TokenQueue κ] (limit : Nat) (grammar : Grammar) (roots : Forest) (queue : κ) :
    Nat → Consumed κ
  | 0 => ⟨[], [], none, roots, queue⟩
  | left + 1 =>
    match TokenQueue.pop queue with
    | ⟨.error e, queue⟩ => ⟨[], [], some e, roots, queue⟩
    | ⟨.ok token, queue⟩ =>
      let f := grammar.foldAll (left != 0) limit (roots ++ [.leaf token])
      if f.finished then (consume limit grammar f.roots queue left).after token f.made
      else ⟨[token], f.made, some (Cause.reductionLimit limit), f.roots, queue⟩

/-- Takes the tokens that are ready in a queue. -/
def consumeReady [TokenQueue κ] (p : Parser κ) (queue : κ) : Consumed κ :=
  consume p.limit.most p.grammar p.roots queue (TokenQueue.pending queue)

/-- Takes the tokens that are ready in the bound queue; the result is their number. -/
def run [TokenQueue κ] (p : Parser κ) : Except Fault Nat × Parser κ :=
  match p.queue with
  | none => (.error Cause.noQueue, p)
  | some queue =>
    let c := p.consumeReady queue
    let result := match c.fault with
      | some e => .error e
      | none => .ok (TokenQueue.pending queue)
    (result, { p with roots := c.roots, queue := some c.queue })

end Parser

end Thicket
