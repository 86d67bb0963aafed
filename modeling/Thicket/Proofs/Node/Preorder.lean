import Mathlib.Data.List.Basic
import Thicket.Node.Graph
import Thicket.Proofs.Node.Subtrees

/-!
# Preorder

`Forest.walk` works off a list of nodes that are still to be visited. `Forest.visits` says by recursion
on the trees what it comes to (`walk_eq_visits`): a node, then its children, then what follows, each
node numbered by how many come before it. So the nodes are visited in the order of `Forest.subtrees`
(`visits_numbered`).

In this numbering `Forest.IsRoot` and `Forest.IsChild` say which nodes are roots and which node stands
below which one. Each node is a root or a child (`isRoot_or_isChild`), and comes with the label that its
parent has given it (`visits_of_isRoot`, `visits_of_isChild`).
-/

namespace Thicket

section Visits

variable {α : Type} (childLabel : α → Nat → α)

mutual

/-- The visits in a tree whose root is labelled and numbered. -/
def Node.visits (label : α) (next : Nat) : Node → List (α × Nat × Symbol)
  | .mk s cs => (label, next, s) :: Forest.visits (childLabel label next) (next + 1) cs

/-- The visits in a forest whose roots have one label, numbered from `next`. -/
def Forest.visits (label : α) (next : Nat) : Forest → List (α × Nat × Symbol)
  | [] => []
  | n :: ns => Node.visits label next n ++ Forest.visits label (next + n.size) ns

end

namespace Forest

mutual

theorem walk_cons (label : α) (next : Nat) (n : Node) (todo : List (α × Node)) :
    walk childLabel next ((label, n) :: todo) =
      n.visits childLabel label next ++ walk childLabel (next + n.size) todo := by
  cases n with
  | mk s cs =>
    rw [walk, Node.visits, Node.size, Node.children, walk_map_append, List.cons_append,
      Node.symbol, Nat.add_assoc next 1, Nat.add_comm 1]

theorem walk_map_append (label : α) (next : Nat) (forest : Forest) (todo : List (α × Node)) :
    walk childLabel next (forest.map (label, ·) ++ todo) =
      visits childLabel label next forest ++ walk childLabel (next + size forest) todo := by
  cases forest with
  | nil => rfl
  | cons n ns =>
    rw [List.map_cons, List.cons_append, walk_cons, walk_map_append, visits, size,
      List.append_assoc, Nat.add_assoc]

end

/-- Working off the roots of a forest visits its nodes in preorder. -/
theorem walk_eq_visits (label : α) (next : Nat) (forest : Forest) :
    walk childLabel next (forest.map (label, ·)) = visits childLabel label next forest := by
  have hwalk := walk_map_append childLabel label next forest []
  have hdone : walk childLabel (next + size forest) [] = [] := by rw [walk]
  rwa [hdone, List.append_nil, List.append_nil] at hwalk

/-! ## Numbers -/

mutual

theorem visits_numbered_node (label : α) (next : Nat) (n : Node) :
    (n.visits childLabel label next).map Prod.snd =
      (n.subtrees.zipIdx next).map fun (m, number) => (number, m.symbol) := by
  cases n with
  | mk s cs =>
    rw [Node.visits, Node.subtrees, List.map_cons, List.zipIdx_cons, List.map_cons,
      visits_numbered]
    rfl

/-- The nodes are visited in preorder and numbered one after the other. -/
theorem visits_numbered (label : α) (next : Nat) (forest : Forest) :
    (visits childLabel label next forest).map Prod.snd =
      ((subtrees forest).zipIdx next).map fun (m, number) => (number, m.symbol) := by
  cases forest with
  | nil => rfl
  | cons n ns =>
    rw [visits, subtrees, List.map_append, List.zipIdx_append, List.map_append,
      visits_numbered_node, visits_numbered, length_subtrees_node]

end

theorem length_visits (label : α) (next : Nat) (forest : Forest) :
    (visits childLabel label next forest).length = size forest := by
  have hlength := congrArg List.length (visits_numbered childLabel label next forest)
  rwa [List.length_map, List.length_map, List.length_zipIdx, length_subtrees] at hlength

/-! ## Visits of trees side by side -/

theorem visits_append (label : α) (next : Nat) (a b : Forest) :
    visits childLabel label next (a ++ b) =
      visits childLabel label next a ++ visits childLabel label (next + size a) b := by
  induction a generalizing next with
  | nil => simp [visits, size]
  | cons n ns ih =>
    rw [List.cons_append, visits, visits, ih, size, List.append_assoc, Nat.add_assoc]

mutual

theorem visits_split_node (label : α) (next : Nat) (n : Node) {p : Nat} {m : Node}
    (hm : n.subtrees[p]? = some m) :
    ∃ front back own, n.visits childLabel label next =
      front ++ (m.visits childLabel own (next + p) ++ back) ∧ front.length = p := by
  cases n with
  | mk s cs =>
    rw [Node.subtrees] at hm
    cases p with
    | zero =>
      rw [List.getElem?_cons_zero] at hm
      obtain rfl : Node.mk s cs = m := Option.some.inj hm
      exact ⟨[], [], label, by rw [List.append_nil]; rfl, rfl⟩
    | succ p =>
      rw [List.getElem?_cons_succ] at hm
      obtain ⟨front, back, own, heq, hlength⟩ :=
        visits_split (childLabel label next) (next + 1) cs hm
      refine ⟨(label, next, s) :: front, back, own, ?_, by rw [List.length_cons, hlength]⟩
      rw [Node.visits, heq, List.cons_append, Nat.add_assoc, Nat.add_comm 1]

/-- The visits in a subtree stand together in those in the forest. -/
theorem visits_split (label : α) (next : Nat) (forest : Forest) {p : Nat} {m : Node}
    (hm : (subtrees forest)[p]? = some m) :
    ∃ front back own, visits childLabel label next forest =
      front ++ (m.visits childLabel own (next + p) ++ back) ∧ front.length = p := by
  cases forest with
  | nil => cases hm
  | cons n ns =>
    rw [subtrees] at hm
    by_cases hp : p < n.subtrees.length
    · rw [List.getElem?_append_left hp] at hm
      obtain ⟨front, back, own, heq, hlength⟩ := visits_split_node label next n hm
      refine ⟨front, back ++ visits childLabel label (next + n.size) ns, own, ?_, hlength⟩
      rw [visits, heq, List.append_assoc, List.append_assoc]
    · have hle : n.size ≤ p := by
        rw [length_subtrees_node] at hp
        omega
      rw [List.getElem?_append_right (Nat.le_of_not_lt hp), length_subtrees_node] at hm
      obtain ⟨front, back, own, heq, hlength⟩ := visits_split label (next + n.size) ns hm
      refine ⟨n.visits childLabel label next ++ front, back, own, ?_, ?_⟩
      · have hnumber : next + n.size + (p - n.size) = next + p := by omega
        rw [visits, heq, hnumber, List.append_assoc]
      · have hvisits := congrArg List.length (visits_numbered_node childLabel label next n)
        rw [List.length_map, List.length_map, List.length_zipIdx, length_subtrees_node] at hvisits
        rw [List.length_append, hvisits, hlength]
        omega

end

end Forest

end Visits

/-! ## Roots and children -/

namespace Forest

/-- In preorder, the node with a number is a root: only the trees to its left come before it. -/
def IsRoot (forest : Forest) (k : Nat) : Prop :=
  ∃ before c after, forest = before ++ c :: after ∧ k = size before

/-- In preorder, the node with the number `k` is a child of the one with the number `p`, which is
followed by the trees below it. -/
def IsChild (forest : Forest) (p k : Nat) : Prop :=
  ∃ n j, (subtrees forest)[p]? = some n ∧ IsRoot n.children j ∧ k = p + 1 + j

theorem IsChild.lt {forest : Forest} {p k : Nat} (h : IsChild forest p k) : p < k := by
  obtain ⟨_, j, -, -, rfl⟩ := h
  omega

theorem IsRoot.cons {forest : Forest} {k : Nat} (h : IsRoot forest k) (n : Node) :
    IsRoot (n :: forest) (n.size + k) := by
  obtain ⟨before, c, after, rfl, rfl⟩ := h
  exact ⟨n :: before, c, after, rfl, by rw [size]⟩

theorem IsChild.cons {forest : Forest} {p k : Nat} (h : IsChild forest p k) (n : Node) :
    IsChild (n :: forest) (n.size + p) (n.size + k) := by
  obtain ⟨m, j, hm, hj, rfl⟩ := h
  refine ⟨m, j, ?_, hj, by omega⟩
  rw [subtrees, List.getElem?_append_right (by rw [length_subtrees_node]; omega),
    length_subtrees_node, Nat.add_sub_cancel_left, hm]

theorem IsRoot.below {cs : Forest} {k : Nat} (h : IsRoot cs k) (s : Symbol) (ns : Forest) :
    IsChild (.mk s cs :: ns) 0 (1 + k) :=
  ⟨.mk s cs, k, rfl, h, by omega⟩

theorem IsChild.below {cs : Forest} {p k : Nat} (h : IsChild cs p k) (s : Symbol) (ns : Forest) :
    IsChild (.mk s cs :: ns) (1 + p) (1 + k) := by
  obtain ⟨m, j, hm, hj, rfl⟩ := h
  refine ⟨m, j, ?_, hj, by omega⟩
  have hp : p < (subtrees cs).length := (List.getElem?_eq_some_iff.1 hm).1
  rw [subtrees, Node.subtrees, Nat.add_comm, List.cons_append, List.getElem?_cons_succ,
    List.getElem?_append_left hp, hm]

/-- Every node is a root or a child. -/
theorem isRoot_or_isChild (forest : Forest) {k : Nat} (hk : k < size forest) :
    IsRoot forest k ∨ ∃ p, IsChild forest p k := by
  match forest with
  | [] => cases hk
  | .mk s cs :: ns =>
    rw [size, Node.size] at hk
    by_cases hzero : k = 0
    · exact .inl ⟨[], .mk s cs, ns, rfl, hzero⟩
    by_cases hbelow : k < size cs + 1
    · right
      obtain ⟨j, rfl⟩ : ∃ j, k = 1 + j := ⟨k - 1, by omega⟩
      rcases isRoot_or_isChild cs (k := j) (by omega) with hroot | ⟨p, hchild⟩
      · exact ⟨0, hroot.below s ns⟩
      · exact ⟨1 + p, hchild.below s ns⟩
    · obtain ⟨j, rfl⟩ : ∃ j, k = (Node.mk s cs).size + j := ⟨k - (size cs + 1), by
        rw [Node.size]
        omega⟩
      rw [Node.size] at hk
      rcases isRoot_or_isChild ns (k := j) (by omega) with hroot | ⟨p, hchild⟩
      · exact .inl (hroot.cons _)
      · exact .inr ⟨_, hchild.cons _⟩
termination_by size forest
decreasing_by
  · rw [size, Node.size]
    omega
  · rw [size, Node.size]
    omega

variable {α : Type} (childLabel : α → Nat → α)

/-- A root is visited with the label of the roots. -/
theorem visits_of_isRoot {forest : Forest} {k : Nat} (h : IsRoot forest k) (label : α)
    (next : Nat) :
    ∃ s, (visits childLabel label next forest)[k]? = some (label, next + k, s) := by
  obtain ⟨before, ⟨s, cs⟩, after, rfl, rfl⟩ := h
  refine ⟨s, ?_⟩
  have hfront := length_visits childLabel label next before
  rw [visits_append, List.getElem?_append_right (Nat.le_of_eq hfront), hfront, Nat.sub_self, visits,
    Node.visits]
  rfl

/-- A child is visited with the label that its parent gives it. -/
theorem visits_of_isChild {forest : Forest} {p k : Nat} (h : IsChild forest p k) (label : α)
    (next : Nat) :
    ∃ own s, (visits childLabel label next forest)[k]? =
      some (childLabel own (next + p), next + k, s) := by
  obtain ⟨⟨t, cs⟩, j, hn, hroot, rfl⟩ := h
  obtain ⟨front, back, own, heq, hlength⟩ := visits_split childLabel label next forest hn
  obtain ⟨s, hs⟩ := visits_of_isRoot childLabel hroot (childLabel own (next + p)) (next + p + 1)
  have hnumber : next + p + 1 + j = next + (p + 1 + j) := by omega
  have hj : j < (visits childLabel (childLabel own (next + p)) (next + p + 1) cs).length :=
    (List.getElem?_eq_some_iff.1 hs).1
  have hplace : p + 1 + j = front.length + (j + 1) := by omega
  refine ⟨own, s, ?_⟩
  -- the child comes after the front, its parent and the trees before it
  rw [heq, hplace, List.getElem?_append_right (Nat.le_add_right _ _), Nat.add_sub_cancel_left,
    Node.visits, List.cons_append, List.getElem?_cons_succ, List.getElem?_append_left hj, ← hplace,
    ← hnumber]
  exact hs

end Forest

end Thicket
