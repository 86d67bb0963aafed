import Thicket.Proofs.Source.Agreement

/-!
# Sources of a text

A source hands out a text if its answers, whatever it is asked for, split the text: each answer counts its part,
and none is empty before the text is at its end (`Source.HandsOut`). Where one part ends and the next begins is
up to the source. Characters hand out what is left of them, and lines of written text hand out the text, however
the bytes arrive.
-/

namespace Thicket

/-- The answers hand out a text from its beginning on, and what is left of it may be handed out later. -/
def Text.SplitBy (text : Text) : List (Text × Except Fault Nat) → Prop
  | [] => True
  | (part, result) :: later =>
    ∃ rest, text = part ++ rest ∧ result = .ok part.length ∧ (part = [] → rest = []) ∧ SplitBy rest later

/-- A text is split into its portions. -/
theorem Text.splitBy_portions (text : Text) {mosts : List Nat} (h : ∀ most ∈ mosts, 0 < most) :
    text.SplitBy (text.portions mosts) := by
  induction mosts generalizing text with
  | nil => trivial
  | cons most mosts ih =>
    obtain ⟨hmost, hmosts⟩ := List.forall_mem_cons.1 h
    have hcount : (text.take most).length = min most text.length := List.length_take
    refine ⟨text.drop most, (List.take_append_drop most text).symm, by rw [hcount], ?_, ih _ hmosts⟩
    intro hnone
    obtain hzero | rfl := List.take_eq_nil_iff.1 hnone
    · omega
    · exact List.drop_nil

namespace Source

variable {σ : Type} [Source σ]

/-- However a source is asked for text, it hands out this one. -/
def HandsOut (source : σ) (text : Text) : Prop :=
  ∀ mosts, (∀ most ∈ mosts, 0 < most) → text.SplitBy (answers source mosts)

/-- A pull hands out a part of the text, and the source then hands out the rest. -/
theorem HandsOut.pull {source : σ} {text : Text} (h : HandsOut source text) {most : Nat} (hmost : 0 < most) :
    ∃ rest, text = (Source.pull source most).text ++ rest ∧
      (Source.pull source most).result = .ok (Source.pull source most).text.length ∧
      ((Source.pull source most).text = [] → rest = []) ∧ HandsOut (Source.pull source most).source rest := by
  obtain ⟨rest, htext, hcount, hend, -⟩ := h [most] (List.forall_mem_singleton.2 hmost)
  refine ⟨rest, htext, hcount, hend, fun mosts hmosts => ?_⟩
  obtain ⟨rest', htext', -, -, hlater⟩ := h (most :: mosts) (List.forall_mem_cons.2 ⟨hmost, hmosts⟩)
  -- the first part leaves the same rest, whatever is asked for later
  obtain rfl : rest = rest' := List.append_cancel_left (htext.symm.trans htext')
  exact hlater

end Source

theorem CharSource.handsOut (s : CharSource) : Source.HandsOut s s.rest := by
  intro mosts hmosts
  rw [answers_eq_portions]
  exact s.rest.splitBy_portions hmosts

theorem LineSource.Holds.handsOut {s : LineSource} {text : Text} (h : s.Holds text) :
    Source.HandsOut s text := by
  intro mosts hmosts
  rw [answers_of_holds h]
  exact text.splitBy_portions hmosts

end Thicket
