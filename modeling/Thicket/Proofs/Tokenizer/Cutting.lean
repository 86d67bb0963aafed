import Mathlib.Data.List.Infix
import Thicket.Proofs.Tokenizer.Pieces

/-!
# Cutting a text by rules

What a list of rules makes of a whole text that nothing follows: the first rule cuts its leftmost token
out of the text and goes on behind it, every gap is cut by the second rule, and so on (`ruleTokens`). No
buffer and no order of events enters into this.

Rules whose answers belong to the characters and not to what stands around them are called coherent.
For these, a text in which no token begins can be left out from the front (`ruleTokens_append`), and a
text can be taken apart around a token that no rule of higher priority reaches into (`ruleTokens_cut`).
-/

namespace Thicket

namespace Text

/-- The cut of a text with more text before it. -/
def Cut.prepend (u : Text) (c : Cut) : Cut := { c with before := u ++ c.before }

/-- The cut of a text with more text after it. -/
def Cut.append (c : Cut) (w : Text) : Cut := { c with after := c.after ++ w }

theorem cut?_nil (start stop : Nat) : cut? start stop [] = none := by
  simp [cut?, splitBytes]

end Text

namespace Rule

/-- The token that a rule finds in a text that nothing follows. -/
def cut? (r : Rule) (t : Text) : Option Text.Cut :=
  match r.matcher.search t with
  | some (.full start stop) => t.cut? start stop
  | _ => none

@[simp] theorem cut?_nil (r : Rule) : r.cut? [] = none := by
  unfold cut?
  split
  · exact Text.cut?_nil _ _
  · rfl

theorem search_of_cut? {r : Rule} {t : Text} {c : Text.Cut} (h : r.cut? t = some c) :
    ∃ start stop, r.matcher.search t = some (.full start stop) ∧ t.cut? start stop = some c := by
  unfold cut? at h
  split at h
  · next start stop hsearch => exact ⟨start, stop, hsearch, h⟩
  · cases h

theorem cut?_append {r : Rule} {t : Text} {c : Text.Cut} (h : r.cut? t = some c) :
    c.before ++ (c.part ++ c.after) = t := by
  obtain ⟨start, stop, -, hcut⟩ := search_of_cut? h
  rw [← List.append_assoc]
  exact Text.cut?_append hcut

theorem cut?_length_lt {r : Rule} {t : Text} {c : Text.Cut} (h : r.cut? t = some c) :
    c.before.length + c.after.length < t.length := by
  obtain ⟨start, stop, -, hcut⟩ := search_of_cut? h
  exact Text.cut?_length_lt hcut

/-- A full answer is the token that the rule finds. -/
theorem cut?_of_answer? {r : Rule} {last : Bool} {t : Text} {c : Text.Cut} {id : SymbolId}
    (h : r.answer? last t = some (.full c id)) : r.cut? t = some c ∧ id = r.id := by
  obtain ⟨rfl, start, stop, hsearch, hcut⟩ := answer?_full h
  unfold cut?
  rw [hsearch]
  exact ⟨hcut, rfl⟩

/-- A rule that finds a token gives an answer. -/
theorem cut?_of_answer?_none {r : Rule} {last : Bool} {t : Text} (h : r.answer? last t = none) :
    r.cut? t = none := by
  unfold cut?
  unfold answer? at h
  split
  · next hsearch =>
    rw [hsearch] at h
    exact Option.map_eq_none_iff.1 h
  · rfl

/-- If there is no answer for a last text, nothing was found in it at all, unless the match that was
found holds no character. -/
theorem search_of_no_answer {r : Rule} {t : Text} (h : r.answer? true t = none)
    (hfull : ∀ start stop, r.matcher.search t = some (.full start stop) → r.cut? t ≠ none) :
    r.matcher.search t = none := by
  have hnone := cut?_of_answer?_none h
  unfold answer? at h
  split at h
  · next start stop hsearch => exact absurd hnone (hfull start stop hsearch)
  · cases h
  · assumption

end Rule

/-- The tokens of a text by rules, the one with the highest priority first. -/
def ruleTokens (rules : List Rule) (t : Text) : List Symbol :=
  match rules with
  | [] => []
  | r :: lower =>
    match _cut : r.cut? t with
    | none => ruleTokens lower t
    | some c => ruleTokens lower c.before ++ ⟨r.id, c.part⟩ :: ruleTokens (r :: lower) c.after
termination_by (rules.length, t.length)
decreasing_by
  · exact Prod.Lex.left _ _ (Nat.lt_succ_self _)
  · exact Prod.Lex.left _ _ (Nat.lt_succ_self _)
  · have := Rule.cut?_length_lt _cut
    apply Prod.Lex.right
    omega

section Equations

variable {r : Rule} {lower : List Rule} {t : Text}

@[simp] theorem ruleTokens_no_rule (t : Text) : ruleTokens [] t = [] := by
  rw [ruleTokens]

theorem ruleTokens_of_none (h : r.cut? t = none) : ruleTokens (r :: lower) t = ruleTokens lower t := by
  rw [ruleTokens]
  split
  · rfl
  · next hcut =>
    rw [h] at hcut
    cases hcut

theorem ruleTokens_of_some {c : Text.Cut} (h : r.cut? t = some c) :
    ruleTokens (r :: lower) t =
      ruleTokens lower c.before ++ ⟨r.id, c.part⟩ :: ruleTokens (r :: lower) c.after := by
  rw [ruleTokens]
  split
  · next hcut =>
    rw [h] at hcut
    cases hcut
  · next hcut =>
    rw [h] at hcut
    cases hcut
    rfl

@[simp] theorem ruleTokens_nil (rules : List Rule) : ruleTokens rules [] = [] := by
  induction rules with
  | nil => exact ruleTokens_no_rule []
  | cons r lower ih => rw [ruleTokens_of_none r.cut?_nil, ih]

end Equations

namespace Rule

/-! ## Texts in which no token begins -/

/-- With the text `u` before it, the rule finds in the text `w` what it finds in it alone. -/
def Skips (r : Rule) (u w : Text) : Prop := r.cut? (u ++ w) = (r.cut? w).map (·.prepend u)

/-- No token of the rule begins in `u` if `w` follows: the rule skips every part of `u`, whatever part
of the rest comes after it. -/
def Clear (r : Rule) (u w : Text) : Prop :=
  ∀ a v b w', u = a ++ (v ++ b) → w' <+: b ++ w → r.Skips v w'

variable {r : Rule} {u v w : Text}

theorem Clear.skips (h : r.Clear u w) : r.Skips u w :=
  h [] u [] w (by simp) (List.prefix_refl w)

theorem Clear.shorten {w' : Text} (h : r.Clear u w) (hw : w' <+: w) : r.Clear u w' := by
  intro a v b x hu hx
  exact h a v b x hu (hx.trans ((List.prefix_append_right_inj b).2 hw))

theorem Clear.left (h : r.Clear (u ++ v) w) : r.Clear u (v ++ w) := by
  intro a x b w' hu hw
  apply h a x (b ++ v) w'
  · rw [hu]
    simp only [List.append_assoc]
  · rwa [List.append_assoc]

theorem Clear.right (h : r.Clear (u ++ v) w) : r.Clear v w := by
  intro a x b w' hv hw
  apply h (u ++ a) x b w'
  · rw [hv]
    simp only [List.append_assoc]
  · exact hw

/-- A rule of which no token begins in a text finds none in it. -/
theorem Clear.cut?_eq_none (h : r.Clear u w) : r.cut? u = none := by
  have hskips := (h.shorten List.nil_prefix).skips
  rw [Skips, List.append_nil, cut?_nil] at hskips
  exact hskips

/-- No token of any of the rules begins in `u` if `w` follows. -/
def AllClear (rules : List Rule) (u w : Text) : Prop := ∀ r ∈ rules, r.Clear u w

/-! ## Coherent rules -/

/-- A rule whose answers belong to the characters of the text. No answer tells that no token begins in
the text, whatever follows; finding no token tells the same if nothing follows; and a token is the
leftmost one. -/
structure Coherent (r : Rule) : Prop where
  clear_of_no_answer : ∀ t, r.answer? true t = none → ∀ w, r.Clear t w
  clear_of_no_cut : ∀ t, r.cut? t = none → r.Clear t []
  leftmost : ∀ t c, r.cut? t = some c → r.cut? c.before = none

/-- What the rule finds in a part of the text stays what it finds, whatever part of the text follows. -/
def FinalIn (r : Rule) (text : Text) : Prop :=
  ∀ t w c, t ++ w <:+: text → r.cut? t = some c → r.cut? (t ++ w) = some (c.append w)

end Rule

/-! ## Tokens of a text in parts -/

/-- A text in which no token begins comes to no token, and can be left out from the front. -/
theorem ruleTokens_append {rules : List Rule} {u w : Text} (h : Rule.AllClear rules u w) :
    ruleTokens rules (u ++ w) = ruleTokens rules w := by
  induction rules generalizing w with
  | nil => rw [ruleTokens_no_rule, ruleTokens_no_rule]
  | cons r lower ih =>
    have hskips : r.cut? (u ++ w) = (r.cut? w).map (·.prepend u) := (h r List.mem_cons_self).skips
    have hlower : Rule.AllClear lower u w := fun r hr => h r (List.mem_cons_of_mem _ hr)
    cases hcut : r.cut? w with
    | none =>
      rw [hcut] at hskips
      rw [ruleTokens_of_none hskips, ruleTokens_of_none hcut]
      exact ih hlower
    | some c =>
      -- the text goes to the first gap, and comes to nothing there
      rw [hcut] at hskips
      have hbefore : c.before <+: w := ⟨_, Rule.cut?_append hcut⟩
      have hgap : ruleTokens lower (u ++ c.before) = ruleTokens lower c.before :=
        ih fun r hr => (hlower r hr).shorten hbefore
      rw [ruleTokens_of_some hskips, ruleTokens_of_some hcut]
      show ruleTokens lower (u ++ c.before) ++ _ = _
      rw [hgap]
      rfl

/-- Around a token that stays where it is, and that no rule of higher priority reaches into from
before, the text falls into two texts that are cut on their own. -/
theorem ruleTokens_cut {higher lower : List Rule} {r : Rule} {t w : Text} {c : Text.Cut}
    (hcut : r.cut? t = some c) (hbefore : r.cut? c.before = none)
    (hfinal : ∀ w', w' <+: w → r.cut? (t ++ w') = some (c.append w'))
    (hhigher : Rule.AllClear higher t w) :
    ruleTokens (higher ++ r :: lower) (t ++ w) =
      ruleTokens (higher ++ r :: lower) c.before ++
        ⟨r.id, c.part⟩ :: ruleTokens (higher ++ r :: lower) (c.after ++ w) := by
  induction higher generalizing w with
  | nil =>
    rw [List.nil_append, ruleTokens_of_some (hfinal w (List.prefix_refl w)),
      ruleTokens_of_none hbefore]
    rfl
  | cons h higher ih =>
    have hclear := hhigher h List.mem_cons_self
    have hrest : Rule.AllClear higher t w := fun r hr => hhigher r (List.mem_cons_of_mem _ hr)
    have ht := Rule.cut?_append hcut
    have hgap : h.cut? c.before = none := by
      rw [← ht] at hclear
      exact hclear.left.cut?_eq_none
    have hafter : h.cut? (c.after ++ w) = (h.cut? w).map (·.prepend c.after) := by
      rw [← ht, ← List.append_assoc] at hclear
      exact hclear.right.skips
    have hskips : h.cut? (t ++ w) = (h.cut? w).map (·.prepend t) := hclear.skips
    rw [List.cons_append, ruleTokens_of_none hgap]
    cases hw : h.cut? w with
    | none =>
      rw [hw] at hskips hafter
      rw [ruleTokens_of_none hskips, ruleTokens_of_none hafter]
      exact ih hfinal hrest
    | some d =>
      -- the rule of higher priority cuts what follows; its first gap is cut as claimed
      rw [hw] at hskips hafter
      have hd : d.before <+: w := ⟨_, Rule.cut?_append hw⟩
      have hgap' := ih (fun w' hw' => hfinal w' (hw'.trans hd)) fun r hr => (hrest r hr).shorten hd
      rw [ruleTokens_of_some hskips, ruleTokens_of_some hafter]
      show ruleTokens _ (t ++ d.before) ++ _ = _ ++ _ :: (ruleTokens _ (c.after ++ d.before) ++ _)
      rw [hgap', List.append_assoc, List.cons_append]
      rfl

end Thicket
