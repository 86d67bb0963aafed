import Thicket.Proofs.Source.Lines
import Thicket.Source.Characters

/-!
# Sources that agree

What can be seen of a source are the answers to pulls, made one after another. Two sources agree if no
pulls tell them apart; then they also agree after a pull (`Agree.source`). A source of characters hands
out its text in portions, and so does a source over a reader of written text (`answers_of_holds`),
however the bytes arrive.
-/

namespace Thicket

namespace Source

variable {σ τ : Type} [Source σ] [Source τ]

/-- The answers of a source that is pulled from time and again, each time for at most so much. -/
def answers (source : σ) : List Nat → List (Text × Except Fault Nat)
  | [] => []
  | most :: mosts =>
    ((pull source most).text, (pull source most).result) :: answers (pull source most).source mosts

/-- No pulls tell the sources apart. -/
def Agree (a : σ) (b : τ) : Prop := ∀ mosts, answers a mosts = answers b mosts

theorem Agree.answer {a : σ} {b : τ} (h : Agree a b) (most : Nat) :
    (pull a most).text = (pull b most).text ∧ (pull a most).result = (pull b most).result :=
  Prod.mk.inj (List.cons.inj (h [most])).1

/-- Sources that agree do so after a pull as well. -/
theorem Agree.source {a : σ} {b : τ} (h : Agree a b) (most : Nat) :
    Agree (pull a most).source (pull b most).source :=
  fun mosts => (List.cons.inj (h (most :: mosts))).2

end Source

/-- A text in portions: each as large as is asked for, as long as there is so much of the text. -/
def Text.portions (t : Text) : List Nat → List (Text × Except Fault Nat)
  | [] => []
  | most :: mosts => (t.take most, .ok (min most t.length)) :: portions (t.drop most) mosts

theorem CharSource.answers_eq_portions (s : CharSource) (mosts : List Nat) :
    Source.answers s mosts = s.rest.portions mosts := by
  induction mosts generalizing s with
  | nil => rfl
  | cons most mosts ih =>
    have hcount : (s.rest.take most).length = min most s.rest.length := List.length_take
    rw [Source.answers, Text.portions, ← hcount, ih]
    rfl

theorem LineSource.answers_of_holds {s : LineSource} {t : Text} (h : s.Holds t) (mosts : List Nat) :
    Source.answers s mosts = t.portions mosts := by
  induction mosts generalizing s t with
  | nil => rfl
  | cons most mosts ih =>
    obtain ⟨htext, hresult, hsource⟩ := h.pull most
    have hcount : (t.take most).length = min most t.length := List.length_take
    have hanswer : ((s.pull most).text, (s.pull most).result) =
        (t.take most, .ok (min most t.length)) := by
      rw [htext, hresult, hcount]
    exact congrArg₂ List.cons hanswer (ih hsource)

end Thicket
