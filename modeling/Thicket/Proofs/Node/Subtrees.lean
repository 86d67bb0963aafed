import Mathlib.Data.List.Basic
import Thicket.Node.Basic

/-!
# Leaves and subtrees of a forest

`Forest.subtrees` lists all nodes of a forest in preorder, each with what is below it. When some trees
that stand side by side are put under a new node, the leaves stay as they are, and the only subtree
that is new is the one of the new node: `Forest.leaves_branch_between`,
`Forest.subtrees_branch_between`.
-/

namespace Thicket

mutual

/-- All nodes of a tree in preorder, the root included. -/
def Node.subtrees : Node → List Node
  | .mk s cs => .mk s cs :: Forest.subtrees cs

/-- All nodes of a forest in preorder. -/
def Forest.subtrees : Forest → List Node
  | [] => []
  | n :: ns => Node.subtrees n ++ Forest.subtrees ns

end

@[simp] theorem Node.children_branch (id : SymbolId) (span : Forest) :
    (Node.branch id span).children = span := rfl

namespace Forest

/-! ## Subtrees -/

theorem subtrees_append (a b : Forest) : subtrees (a ++ b) = subtrees a ++ subtrees b := by
  induction a with
  | nil => rw [subtrees, List.nil_append, List.nil_append]
  | cons n ns ih => rw [List.cons_append, subtrees, subtrees, ih, List.append_assoc]

theorem subtrees_leaf (s : Symbol) : subtrees [.leaf s] = [.leaf s] := by
  rw [Node.leaf, subtrees, Node.subtrees, subtrees, List.append_nil]

theorem subtrees_branch_cons (id : SymbolId) (span rest : Forest) :
    subtrees (.branch id span :: rest) = .branch id span :: (subtrees span ++ subtrees rest) := by
  rw [Node.branch, subtrees, Node.subtrees, List.cons_append]

mutual

theorem length_subtrees_node (n : Node) : n.subtrees.length = n.size := by
  cases n with
  | mk s cs => rw [Node.subtrees, Node.size, List.length_cons, length_subtrees cs]

/-- There are as many subtrees as nodes. -/
theorem length_subtrees (forest : Forest) : (subtrees forest).length = size forest := by
  cases forest with
  | nil => rfl
  | cons n ns =>
    rw [subtrees, size, List.length_append, length_subtrees_node n, length_subtrees ns]

end

/-- Between other trees, a new node comes before the subtrees of what was put under it. -/
theorem subtrees_branch_between (id : SymbolId) (before span after : Forest) :
    subtrees (before ++ .branch id span :: after) =
      subtrees before ++ .branch id span :: (subtrees span ++ subtrees after) := by
  rw [subtrees_append, subtrees_branch_cons]

/-! ## Leaves -/

theorem leaves_nil : leaves [] = [] := by
  rw [leaves]

/-- The leaves of trees side by side are the leaves of the ones before those of the others. -/
theorem leaves_append (a b : Forest) : leaves (a ++ b) = leaves a ++ leaves b := by
  induction a using leaves.induct with
  | case1 => rw [leaves, List.nil_append, List.nil_append]
  | case2 n rest hleaf ih =>
    rw [List.cons_append, leaves, leaves, if_pos hleaf, if_pos hleaf, ih, List.cons_append]
  | case3 n rest hbranch ih =>
    rw [List.cons_append, leaves, leaves, if_neg hbranch, if_neg hbranch, ← List.append_assoc, ih]

theorem leaves_eq_flatMap (forest : Forest) : leaves forest = forest.flatMap Node.leaves := by
  induction forest with
  | nil => rw [leaves_nil, List.flatMap_nil]
  | cons n ns ih =>
    have hsplit : leaves (n :: ns) = leaves [n] ++ leaves ns := leaves_append [n] ns
    rw [hsplit, ih, List.flatMap_cons, Node.leaves]

theorem leaves_leaf (s : Symbol) : leaves [.leaf s] = [s] := by
  have hleaf : (Node.leaf s).isLeaf = true := rfl
  rw [leaves, if_pos hleaf, leaves, Node.leaf, Node.symbol]

/-- A node with children has the leaves of its children. -/
theorem leaves_branch_cons (id : SymbolId) {span : Forest} (hspan : span ≠ []) (rest : Forest) :
    leaves (.branch id span :: rest) = leaves (span ++ rest) := by
  have hbranch : ¬ (Node.branch id span).isLeaf = true := by
    rw [Node.isLeaf, Node.children_branch, List.isEmpty_iff]
    exact hspan
  rw [leaves, if_neg hbranch, Node.children_branch]

/-- Putting some trees under a new node leaves the leaves as they are. -/
theorem leaves_branch_between (id : SymbolId) {span : Forest} (hspan : span ≠ [])
    (before after : Forest) :
    leaves (before ++ .branch id span :: after) = leaves (before ++ (span ++ after)) := by
  rw [leaves_append, leaves_branch_cons id hspan, ← leaves_append]

end Forest

end Thicket
