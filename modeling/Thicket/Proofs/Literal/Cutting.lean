import Thicket.Proofs.Literal.Occurrence
import Thicket.Proofs.Tokenizer.Cutting

/-!
# Cutting a text by literals

What a list of literals makes of a whole text: the text is cut at the leftmost occurrences of the first
literal that do not overlap, every gap is cut by the second, and so on (`literalTokens`). No buffer and
no order of events enters into this.

A literal is a rule that is coherent and whose tokens stay where they are, whatever follows
(`coherent_literal`, `finalIn_literal`), and literals cut a text as their rules do
(`ruleTokens_literals`).
-/

namespace Thicket

/-- The gaps between the leftmost occurrences of a literal that do not overlap. The empty literal does
not occur. -/
def Text.gaps (literal t : Text) : List Text :=
  if _hne : literal = [] then [t]
  else
    match _cut : t.dropInfix? literal with
    | none => [t]
    | some (gap, rest) => gap :: gaps literal rest
termination_by t.length
decreasing_by
  obtain ⟨⟨found, ht, hfound⟩, -⟩ := List.dropInfix?_eq_some_iff.1 _cut
  have hlen := congrArg List.length ht
  have hpos := List.length_pos_iff.2 _hne
  rw [eq_of_beq hfound] at hlen
  simp only [List.length_append] at hlen
  omega

/-- The tokens of a text by literals, the one with the highest priority first. -/
def literalTokens : List (Text × SymbolId) → Text → List Symbol
  | [], _ => []
  | (literal, id) :: lower, t =>
    [⟨id, literal⟩].intercalate ((Text.gaps literal t).map (literalTokens lower))

namespace Text

/-! ## One literal -/

/-- A text is left as it is if the literal is not found in it, and else taken apart around the leftmost
occurrence. -/
theorem gaps_eq {literal : Text} (hne : literal ≠ []) (t : Text) :
    gaps literal t = match t.dropInfix? literal with
      | none => [t]
      | some (gap, rest) => gap :: gaps literal rest := by
  rw [gaps, dif_neg hne]
  split <;> simp_all

theorem gaps_ne_nil (literal t : Text) : gaps literal t ≠ [] := by
  unfold gaps
  split
  · simp
  · split <;> simp

/-- The leftmost occurrence, without the generality of the library. -/
theorem dropInfix?_iff {literal t gap rest : Text} :
    t.dropInfix? literal = some (gap, rest) ↔ t = gap ++ (literal ++ rest) ∧
      ∀ a b, t = a ++ (literal ++ b) → gap.length ≤ a.length := by
  rw [List.dropInfix?_eq_some_iff]
  simp only [beq_iff_eq, List.append_assoc, exists_eq_right, ge_iff_le]
  exact ⟨fun h => ⟨h.1, fun a b heq => h.2 a literal b heq rfl⟩,
    fun h => ⟨h.1, fun a l b heq hl => h.2 a b (hl ▸ heq)⟩⟩

theorem dropInfix?_of_clear {literal gap rest : Text} (hne : literal ≠ [])
    (h : Clear literal gap (literal ++ rest)) :
    (gap ++ (literal ++ rest)).dropInfix? literal = some (gap, rest) :=
  dropInfix?_iff.2 ⟨rfl, h hne⟩

/-- A text in which the literal does not begin goes to the first gap. -/
theorem dropInfix?_append {literal u w : Text} (hne : literal ≠ []) (h : Clear literal u w) :
    (u ++ w).dropInfix? literal = (w.dropInfix? literal).map fun cut => (u ++ cut.1, cut.2) := by
  cases hcut : w.dropInfix? literal with
  | some cut =>
    obtain ⟨gap, rest⟩ := cut
    obtain ⟨hw, hleast⟩ := dropInfix?_iff.1 hcut
    rw [Option.map_some, dropInfix?_iff]
    refine ⟨by rw [hw, List.append_assoc], ?_⟩
    intro a b heq
    obtain ⟨a', rfl, hw'⟩ := h.exists_append hne heq
    have := hleast a' b hw'
    simp only [List.length_append]
    omega
  | none =>
    cases hsome : (u ++ w).dropInfix? literal with
    | none => rfl
    | some cut =>
      -- the leftmost occurrence in the whole would be one in what follows
      obtain ⟨a, b⟩ := cut
      obtain ⟨heq, hleast⟩ := dropInfix?_iff.1 hsome
      obtain ⟨a', rfl, hw⟩ := h.exists_append hne heq
      have hw' : w.dropInfix? literal = some (a', b) := by
        rw [dropInfix?_iff]
        refine ⟨hw, ?_⟩
        intro a'' b'' hw''
        have := hleast (u ++ a'') b'' (by rw [hw'', List.append_assoc])
        simp only [List.length_append] at this
        omega
      rw [hcut] at hw'
      cases hw'

end Text

/-! ## Literals in order of priority -/

section Priority

variable {literal : Text} {id : SymbolId} {lower : List (Text × SymbolId)}

/-- The empty literal changes nothing. -/
theorem literalTokens_nil_cons (t : Text) :
    literalTokens (([], id) :: lower) t = literalTokens lower t := by
  rw [literalTokens, Text.gaps, dif_pos rfl, List.map_singleton, List.intercalate_singleton]

/-- A literal takes the text apart around its leftmost occurrence; what stands before it is a gap, and
what stands after it is cut like the text. -/
theorem literalTokens_cons (hne : literal ≠ []) (t : Text) :
    literalTokens ((literal, id) :: lower) t = match t.dropInfix? literal with
      | none => literalTokens lower t
      | some (gap, rest) =>
        literalTokens lower gap ++ ⟨id, literal⟩ :: literalTokens ((literal, id) :: lower) rest := by
  rw [literalTokens, Text.gaps_eq hne]
  split
  · rw [List.map_singleton, List.intercalate_singleton]
  · next gap rest _ =>
    have hgaps : (Text.gaps literal rest).map (literalTokens lower) ≠ [] := by
      simp [Text.gaps_ne_nil]
    rw [List.map_cons, List.intercalate_cons_of_ne_nil hgaps, literalTokens, List.append_assoc]
    rfl

@[simp] theorem literalTokens_nil (literals : List (Text × SymbolId)) :
    literalTokens literals [] = [] := by
  induction literals with
  | nil => rfl
  | cons l lower ih =>
    obtain ⟨literal, id⟩ := l
    by_cases hne : literal = []
    · rw [hne, literalTokens_nil_cons, ih]
    · have hcut : ([] : Text).dropInfix? literal = none := by
        simp [List.dropInfix?, List.dropInfix?.go, hne]
      rw [literalTokens_cons hne, hcut]
      exact ih

end Priority

/-! ## Literals as rules -/

/-- The rule of a literal. -/
def Rule.literal (l : Text × SymbolId) : Rule := ⟨.literal l.1, l.2⟩

namespace Rule

variable {l : Text × SymbolId} {t : Text}

/-- The empty literal is not found. -/
theorem cut?_literal_nil (hnil : l.1 = []) (t : Text) : (literal l).cut? t = none := by
  have hsearch : (literal l).matcher.search t = none := by
    show Text.findLiteral l.1 t = none
    rw [hnil]
    rfl
  rw [cut?, hsearch]

/-- A full match is the leftmost occurrence, and a token. -/
theorem cut?_of_findLiteral_full {start stop : Nat}
    (h : Text.findLiteral l.1 t = some (.full start stop)) :
    ∃ u v, ∃ hne : l.1 ≠ [], t = u ++ (l.1 ++ v) ∧ Text.Clear l.1 u (l.1 ++ v) ∧
      (literal l).cut? t = some ⟨u, l.1, v, hne⟩ := by
  have hsearch : (literal l).matcher.search t = some (.full start stop) := h
  obtain ⟨hne, u, v, rfl, rfl, rfl, hclear⟩ := Text.findLiteral_full h
  refine ⟨u, v, hne, rfl, hclear, ?_⟩
  unfold cut?
  rw [hsearch]
  exact Text.cut?_byteSize hne

/-- If no token is found, the literal does not occur. -/
theorem clear_of_cut?_literal_none (h : (literal l).cut? t = none) : Text.Clear l.1 t [] := by
  cases hfind : Text.findLiteral l.1 t with
  | none => exact Text.findLiteral_none hfind []
  | some found =>
    cases found with
    | begun start => exact Text.findLiteral_begun hfind
    | full start stop =>
      obtain ⟨u, v, hne, -, -, hcut⟩ := cut?_of_findLiteral_full hfind
      rw [h] at hcut
      cases hcut

/-- If there is no answer, the literal is not found and may not have begun. -/
theorem findLiteral_of_no_answer (h : (literal l).answer? true t = none) :
    Text.findLiteral l.1 t = none := by
  apply search_of_no_answer h
  intro start stop hsearch hnone
  obtain ⟨u, v, hne, -, -, hcut⟩ := cut?_of_findLiteral_full hsearch
  rw [hnone] at hcut
  cases hcut

/-- The rule of a literal takes the text apart around the leftmost occurrence. -/
theorem cut?_literal (hne : l.1 ≠ []) (t : Text) :
    (literal l).cut? t = (t.dropInfix? l.1).map fun cut => ⟨cut.1, l.1, cut.2, hne⟩ := by
  cases hcut : (literal l).cut? t with
  | none =>
    have hdrop := Text.dropInfix?_append hne (clear_of_cut?_literal_none hcut)
    have hnil : ([] : Text).dropInfix? l.1 = none := by
      simp [List.dropInfix?, List.dropInfix?.go, hne]
    rw [List.append_nil, hnil] at hdrop
    rw [hdrop]
    rfl
  | some c =>
    obtain ⟨start, stop, hsearch, -⟩ := search_of_cut? hcut
    obtain ⟨u, v, _, rfl, hclear, hcut'⟩ := cut?_of_findLiteral_full hsearch
    rw [← hcut, hcut', Text.dropInfix?_of_clear hne hclear]
    rfl

theorem cut?_literal_eq_some {c : Text.Cut} (h : (literal l).cut? t = some c) :
    l.1 ≠ [] ∧ c.part = l.1 ∧ t = c.before ++ (l.1 ++ c.after) ∧
      Text.Clear l.1 c.before (l.1 ++ c.after) := by
  by_cases hnil : l.1 = []
  · rw [cut?_literal_nil hnil] at h
    cases h
  · rw [cut?_literal hnil] at h
    obtain ⟨⟨gap, rest⟩, hcut, rfl⟩ := Option.map_eq_some_iff.1 h
    obtain ⟨rfl, hleast⟩ := Text.dropInfix?_iff.1 hcut
    exact ⟨hnil, rfl, rfl, fun _ => hleast⟩

/-- The rule of a literal skips a text in which no occurrence begins. -/
theorem clear_literal {u w : Text} (h : Text.Clear l.1 u w) : (literal l).Clear u w := by
  rintro a v b w' rfl ⟨more, hw⟩
  have hclear : Text.Clear l.1 v w' := by
    have hrest := h.right.left
    rw [← hw] at hrest
    exact hrest.of_append_right
  unfold Skips
  by_cases hnil : l.1 = []
  · rw [cut?_literal_nil hnil, cut?_literal_nil hnil]
    rfl
  · rw [cut?_literal hnil, cut?_literal hnil, Text.dropInfix?_append hnil hclear, Option.map_map,
      Option.map_map]
    rfl

theorem coherent_literal (l : Text × SymbolId) : (literal l).Coherent where
  clear_of_no_answer t h w := clear_literal (Text.findLiteral_none (findLiteral_of_no_answer h) w)
  clear_of_no_cut t h := clear_literal (clear_of_cut?_literal_none h)
  leftmost t c h := by
    obtain ⟨-, -, -, hclear⟩ := cut?_literal_eq_some h
    exact (clear_literal hclear.alone).cut?_eq_none

/-- The leftmost occurrence of a literal stays the leftmost one, whatever follows. -/
theorem finalIn_literal (l : Text × SymbolId) (text : Text) : (literal l).FinalIn text := by
  intro t w c _ h
  obtain ⟨hne, hpart, rfl, hclear⟩ := cut?_literal_eq_some h
  have hextend : Text.Clear l.1 c.before (l.1 ++ (c.after ++ w)) := hclear.of_append_right.extend _
  rw [List.append_assoc, List.append_assoc, cut?_literal hne, Text.dropInfix?_of_clear hne hextend]
  simp only [Option.map_some, Text.Cut.append, ← hpart]

end Rule

/-- The tokens of a text by literals are those by their rules. -/
theorem ruleTokens_literals (literals : List (Text × SymbolId)) (t : Text) :
    ruleTokens (literals.map Rule.literal) t = literalTokens literals t := by
  match literals with
  | [] => exact ruleTokens_no_rule t
  | (literal, id) :: lower =>
    rw [List.map_cons]
    by_cases hne : literal = []
    · rw [hne, literalTokens_nil_cons, ruleTokens_of_none (Rule.cut?_literal_nil rfl t)]
      exact ruleTokens_literals lower t
    · have hcut := Rule.cut?_literal (l := (literal, id)) hne t
      rw [literalTokens_cons hne]
      cases hdrop : t.dropInfix? literal with
      | none =>
        rw [hdrop] at hcut
        rw [ruleTokens_of_none hcut]
        exact ruleTokens_literals lower t
      | some cut =>
        obtain ⟨gap, rest⟩ := cut
        rw [hdrop] at hcut
        have hlt := Rule.cut?_length_lt hcut
        have hrest := ruleTokens_literals ((literal, id) :: lower) rest
        rw [List.map_cons] at hrest
        rw [ruleTokens_of_some hcut]
        show ruleTokens _ gap ++ _ :: ruleTokens _ rest = _
        rw [ruleTokens_literals lower gap, hrest]
        rfl
termination_by (literals.length, t.length)
decreasing_by
  · exact Prod.Lex.left _ _ (Nat.lt_succ_self _)
  · exact Prod.Lex.left _ _ (Nat.lt_succ_self _)
  · apply Prod.Lex.right
    dsimp only at hlt
    omega
  · exact Prod.Lex.left _ _ (Nat.lt_succ_self _)

end Thicket
