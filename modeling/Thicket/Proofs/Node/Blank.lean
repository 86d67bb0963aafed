import Thicket.Proofs.Node.Subtrees

/-!
# Trees without the texts of their leaves

The blank form of a tree has no texts in its leaves, and is as the tree otherwise. Nothing else is lost: a
forest is told from all others by its blank form and its leaves (`Forest.eq_of_blank_eq`).
-/

namespace Thicket

/-- A symbol without its text. -/
def Symbol.blank (s : Symbol) : Symbol := ⟨s.id, []⟩

mutual

/-- A tree without the texts of its leaves. -/
def Node.blank : Node → Node
  | .mk s [] => .mk s.blank []
  | .mk s (n :: ns) => .mk s (Node.blank n :: Forest.blank ns)

/-- A forest without the texts of its leaves. -/
def Forest.blank : Forest → Forest
  | [] => []
  | n :: ns => Node.blank n :: Forest.blank ns

end

/-! ## Blank forests -/

namespace Forest

theorem blank_eq_map (forest : Forest) : blank forest = forest.map Node.blank := by
  induction forest with
  | nil => rw [blank, List.map_nil]
  | cons n ns ih => rw [blank, ih, List.map_cons]

theorem blank_append (a b : Forest) : blank (a ++ b) = blank a ++ blank b := by
  simp only [blank_eq_map, List.map_append]

theorem blank_take (k : Nat) (forest : Forest) : blank (forest.take k) = (blank forest).take k := by
  simp only [blank_eq_map, List.map_take]

theorem blank_drop (k : Nat) (forest : Forest) : blank (forest.drop k) = (blank forest).drop k := by
  simp only [blank_eq_map, List.map_drop]

theorem length_blank (forest : Forest) : (blank forest).length = forest.length := by
  rw [blank_eq_map, List.length_map]

theorem isEmpty_blank (forest : Forest) : (blank forest).isEmpty = forest.isEmpty := by
  rw [blank_eq_map, List.isEmpty_map]

/-- What has the blank form of a forest with a first tree has a first tree as well. -/
theorem exists_cons_of_blank_eq {n : Node} {ns forest : Forest} (h : blank (n :: ns) = blank forest) :
    ∃ n' ns', forest = n' :: ns' ∧ n.blank = n'.blank ∧ blank ns = blank ns' := by
  cases forest with
  | nil =>
    rw [blank, blank] at h
    cases h
  | cons n' ns' =>
    rw [blank, blank] at h
    obtain ⟨hfirst, hrest⟩ := List.cons.inj h
    exact ⟨n', ns', rfl, hfirst, hrest⟩

end Forest

/-! ## Blank trees -/

namespace Node

theorem blank_leaf (s : Symbol) : (leaf s).blank = leaf s.blank := by
  rw [leaf, blank, leaf]

theorem blank_branch {span : Forest} (id : SymbolId) (hspan : span ≠ []) :
    (branch id span).blank = branch id (Forest.blank span) := by
  obtain ⟨n, ns, rfl⟩ := List.exists_cons_of_ne_nil hspan
  rw [branch, blank, branch, Forest.blank]

theorem children_blank (n : Node) : n.blank.children = Forest.blank n.children := by
  obtain ⟨s, cs⟩ := n
  cases cs with
  | nil => rw [blank, children, children, Forest.blank]
  | cons n ns => rw [blank, children, children, Forest.blank]

theorem isLeaf_blank (n : Node) : n.blank.isLeaf = n.isLeaf := by
  rw [isLeaf, isLeaf, children_blank, Forest.isEmpty_blank]

theorem symbol_blank (n : Node) :
    n.blank.symbol = if n.isLeaf then n.symbol.blank else n.symbol := by
  obtain ⟨s, cs⟩ := n
  cases cs with
  | nil =>
    rw [blank]
    rfl
  | cons n ns =>
    rw [blank]
    rfl

@[simp] theorem id_blank (n : Node) : n.blank.id = n.id := by
  rw [id, symbol_blank]
  split <;> rfl

theorem eq_of_symbol_of_children {n n' : Node} (hsymbol : n.symbol = n'.symbol)
    (hchildren : n.children = n'.children) : n = n' := by
  obtain ⟨s, cs⟩ := n
  obtain ⟨s', cs'⟩ := n'
  cases hsymbol
  cases hchildren
  rfl

end Node

/-! ## What is left out -/

namespace Forest

theorem blank_leaf (s : Symbol) : blank [.leaf s] = [.leaf s.blank] := by
  rw [blank, blank, Node.blank_leaf]

/-- Forests of one blank form are the same if they have the same leaves. -/
theorem eq_of_blank_eq {a b : Forest} (hblank : blank a = blank b) (hleaves : leaves a = leaves b) :
    a = b := by
  induction a using leaves.induct generalizing b with
  | case1 =>
    have hlength := congrArg List.length hblank
    rw [length_blank, length_blank] at hlength
    exact (List.length_eq_zero_iff.1 hlength.symm).symm
  | case2 n ns hleaf ih =>
    obtain ⟨n', ns', rfl, hfirst, hrest⟩ := exists_cons_of_blank_eq hblank
    have hleaf' : n'.isLeaf = true := by rwa [← n'.isLeaf_blank, ← hfirst, n.isLeaf_blank]
    rw [leaves, leaves, if_pos hleaf, if_pos hleaf'] at hleaves
    obtain ⟨hsymbol, hlater⟩ := List.cons.inj hleaves
    have hchildren : n.children = n'.children := by
      rw [List.isEmpty_iff.1 hleaf, List.isEmpty_iff.1 hleaf']
    rw [Node.eq_of_symbol_of_children hsymbol hchildren, ih hrest hlater]
  | case3 n ns hbranch ih =>
    obtain ⟨n', ns', rfl, hfirst, hrest⟩ := exists_cons_of_blank_eq hblank
    have hbranch' : ¬ n'.isLeaf = true := by rwa [← n'.isLeaf_blank, ← hfirst, n.isLeaf_blank]
    have hsymbol := congrArg Node.symbol hfirst
    rw [n.symbol_blank, n'.symbol_blank, if_neg hbranch, if_neg hbranch'] at hsymbol
    have hbelow := congrArg Node.children hfirst
    rw [n.children_blank, n'.children_blank] at hbelow
    have htodo : blank (n.children ++ ns) = blank (n'.children ++ ns') := by
      rw [blank_append, blank_append, hbelow, hrest]
    rw [leaves, leaves, if_neg hbranch, if_neg hbranch'] at hleaves
    -- as many nodes stand below the one as below the other, so children and later trees are told apart
    have hlength := congrArg List.length hbelow
    rw [length_blank, length_blank] at hlength
    obtain ⟨hchildren, rfl⟩ := List.append_inj (ih htodo hleaves) hlength
    rw [Node.eq_of_symbol_of_children hsymbol hchildren]

end Forest

end Thicket
