import Thicket.Tokenizer.Basic

/-!
# Token queues

A token queue tells how many tokens are ready and hands them out, the oldest first; it may fail to,
and whether it is the same queue after that is its own affair. Lists of symbols and tokenizers are
token queues, and so is either of two.
-/

namespace Thicket

/-- What taking a token has come to: the token or a fault, and the queue after it. -/
structure Popped (κ : Type) where
  result : Except Fault Symbol
  queue : κ

/-- What taking a token has come to, with the queue after it seen as one of another kind. -/
def Popped.mapQueue {κ μ : Type} (f : κ → μ) (p : Popped κ) : Popped μ := ⟨p.result, f p.queue⟩

/-- Something that tokens are taken from. -/
class TokenQueue (κ : Type) where
  /-- How many tokens are ready. -/
  pending : κ → Nat
  /-- Takes the oldest token. -/
  pop : κ → Popped κ

instance : TokenQueue (List Symbol) where
  pending := List.length
  pop
    | [] => ⟨.error Cause.emptyQueue, []⟩
    | s :: rest => ⟨.ok s, rest⟩

instance {σ : Type} : TokenQueue (Tokenizer σ) where
  pending t := t.queue.length
  pop t :=
    match t.pop with
    | .ok (s, t) => ⟨.ok s, t⟩
    | .error e => ⟨.error e, t⟩

instance {κ μ : Type} [TokenQueue κ] [TokenQueue μ] : TokenQueue (κ ⊕ μ) where
  pending
    | .inl q => TokenQueue.pending q
    | .inr q => TokenQueue.pending q
  pop
    | .inl q => (TokenQueue.pop q).mapQueue .inl
    | .inr q => (TokenQueue.pop q).mapQueue .inr

/-- A queue that promises more tokens than it has. -/
structure Overstated (κ : Type) where
  queue : κ
  extra : Nat

instance {κ : Type} [TokenQueue κ] : TokenQueue (Overstated κ) where
  pending q := TokenQueue.pending q.queue + q.extra
  pop q := (TokenQueue.pop q.queue).mapQueue (⟨·, q.extra⟩)

end Thicket
