import Mathlib.Logic.Function.Iterate
import Thicket.Proofs.Node.Addresses

/-!
# The frontier of a tree

The frontier of a tree is said by recursion on the tree: a node without children is its own frontier, and the
frontier of any other node is those of its children, one after the other. The leaves of a node are its
frontier (`Forest.leaves_eq_frontier`).

They can be gathered by a loop that knows nothing of the shape of the tree: it takes the last node from a
stack, and puts the children of that node there in reverse (`Sweep.turn`). What the loop has before it at any
time is what its stack covers, in preorder (`Sweep.ahead`), and a turn takes the first node from that. So after
as many turns as there are nodes the loop has come to the leaves, and it has visited each node once
(`Node.leaves_by_sweep`).
-/

namespace Thicket

mutual

/-- The symbols of the nodes without children in a tree, left to right. -/
def Node.frontier : Node → List Symbol
  | .mk s [] => [s]
  | .mk _ (n :: ns) => Node.frontier n ++ Forest.frontier ns

/-- The frontiers of the trees of a forest, one after the other. -/
def Forest.frontier : Forest → List Symbol
  | [] => []
  | n :: ns => Node.frontier n ++ Forest.frontier ns

end

/-! ## Leaves and frontier -/

theorem Node.frontier_of_isLeaf {n : Node} (h : n.isLeaf = true) : n.frontier = [n.symbol] := by
  obtain ⟨s, cs⟩ := n
  obtain rfl : cs = [] := List.isEmpty_iff.1 h
  rw [frontier, symbol]

theorem Node.frontier_of_not_isLeaf {n : Node} (h : ¬ n.isLeaf = true) :
    n.frontier = Forest.frontier n.children := by
  obtain ⟨s, cs⟩ := n
  obtain ⟨c, cs, rfl⟩ := List.exists_cons_of_ne_nil (mt List.isEmpty_iff.2 h)
  rw [frontier, children, Forest.frontier]

namespace Forest

theorem frontier_append (a b : Forest) : frontier (a ++ b) = frontier a ++ frontier b := by
  induction a with
  | nil => rw [frontier, List.nil_append, List.nil_append]
  | cons n ns ih => rw [List.cons_append, frontier, frontier, ih, List.append_assoc]

/-- The leaves of a forest are its frontier. -/
theorem leaves_eq_frontier (forest : Forest) : leaves forest = frontier forest := by
  induction forest using leaves.induct with
  | case1 => rw [leaves, frontier]
  | case2 n rest hleaf ih =>
    rw [leaves, if_pos hleaf, frontier, Node.frontier_of_isLeaf hleaf, ih, List.singleton_append]
  | case3 n rest hbranch ih =>
    rw [leaves, if_neg hbranch, frontier, Node.frontier_of_not_isLeaf hbranch, ih, frontier_append]

end Forest

/-! ## The loop -/

/-- The loop that gathers leaves, between two turns. -/
structure Sweep where
  /-- The nodes that are to be visited, each with its address, the next one last. -/
  stack : List (List Nat × Node)
  /-- The leaves that were found, in order. -/
  found : List Symbol

namespace Sweep

/-- The loop before its first turn. -/
def start (n : Node) : Sweep := ⟨[([], n)], []⟩

/-- The node that the next turn visits. -/
def next? (w : Sweep) : Option (List Nat × Node) := w.stack.getLast?

/-- One turn. -/
def turn (w : Sweep) : Sweep :=
  match w.next? with
  | none => w
  | some (address, n) =>
    if n.isLeaf then ⟨w.stack.dropLast, w.found ++ [n.symbol]⟩
    else ⟨w.stack.dropLast ++ (Forest.placed address 0 n.children).reverse, w.found⟩

/-- The nodes that the loop has before it, in preorder. -/
def ahead (w : Sweep) : List (List Nat × Node) := w.stack.reverse.flatMap fun (p, n) => n.located p

/-- The leaves of the loop: those that were found, and those below the nodes on the stack. -/
def leaves (w : Sweep) : List Symbol := w.found ++ Forest.leaves (w.stack.reverse.map Prod.snd)

/-- A turn finds the stack empty, or takes the last node from it and puts its children there. -/
theorem turn_cases (w : Sweep) :
    w.stack = [] ∧ w.next? = none ∧ w.turn = w ∨
      ∃ below address n, w.stack = below ++ [(address, n)] ∧ w.next? = some (address, n) ∧
        w.turn = ⟨below ++ (Forest.placed address 0 n.children).reverse,
          if n.isLeaf then w.found ++ [n.symbol] else w.found⟩ := by
  obtain hnil | ⟨below, ⟨address, n⟩, hstack⟩ := List.eq_nil_or_concat w.stack
  · have hnext : w.next? = none := by rw [next?, hnil, List.getLast?_nil]
    exact .inl ⟨hnil, hnext, by rw [turn, hnext]⟩
  · rw [List.concat_eq_append] at hstack
    have hnext : w.next? = some (address, n) := by rw [next?, hstack, List.getLast?_concat]
    refine .inr ⟨below, address, n, hstack, hnext, ?_⟩
    rw [turn, hnext, hstack, List.dropLast_concat]
    by_cases hleaf : n.isLeaf = true
    · -- there are no children to be put on the stack
      have hchildren : n.children = [] := List.isEmpty_iff.1 hleaf
      simp [hleaf, hchildren, Forest.placed]
    · simp [hleaf]

theorem ahead_of_stack {w : Sweep} {below : List (List Nat × Node)} {address : List Nat} {n : Node}
    (hstack : w.stack = below ++ [(address, n)]) :
    w.ahead = (address, n) :: (Forest.located address 0 n.children ++
      below.reverse.flatMap fun (p, n) => n.located p) := by
  cases n with
  | mk s cs =>
    rw [ahead, hstack, List.reverse_append, List.reverse_singleton, List.singleton_append,
      List.flatMap_cons]
    rfl

theorem next?_eq_head? (w : Sweep) : w.next? = w.ahead.head? := by
  obtain ⟨hstack, hnext, -⟩ | ⟨below, address, n, hstack, hnext, -⟩ := w.turn_cases
  · rw [hnext, ahead, hstack]
    rfl
  · rw [hnext, ahead_of_stack hstack, List.head?_cons]

/-- A turn visits the first of the nodes that the loop has before it, and leaves the others. -/
theorem ahead_turn (w : Sweep) : w.turn.ahead = w.ahead.tail := by
  obtain ⟨hstack, -, hturn⟩ | ⟨below, address, n, hstack, -, hturn⟩ := w.turn_cases
  · rw [hturn, ahead, hstack]
    rfl
  · rw [hturn, ahead_of_stack hstack, List.tail_cons, Forest.located_eq_flatMap, ahead,
      List.reverse_append, List.reverse_reverse, List.flatMap_append]

/-- A turn keeps the leaves. -/
theorem leaves_turn (w : Sweep) : w.turn.leaves = w.leaves := by
  obtain ⟨-, -, hturn⟩ | ⟨below, address, n, hstack, -, hturn⟩ := w.turn_cases
  · rw [hturn]
  · have hbefore : w.stack.reverse.map Prod.snd = n :: below.reverse.map Prod.snd := by
      rw [hstack, List.reverse_append, List.reverse_singleton, List.singleton_append, List.map_cons]
    have hafter : (below ++ (Forest.placed address 0 n.children).reverse).reverse.map Prod.snd =
        n.children ++ below.reverse.map Prod.snd := by
      rw [List.reverse_append, List.reverse_reverse, List.map_append, Forest.map_snd_placed]
    rw [hturn, leaves, leaves, hbefore, hafter, Forest.leaves]
    split
    · next hleaf =>
      have hchildren : n.children = [] := List.isEmpty_iff.1 hleaf
      rw [hchildren, List.nil_append, List.append_assoc, List.singleton_append]
    · rfl

/-! ## All turns -/

theorem ahead_iterate (w : Sweep) (k : Nat) : (turn^[k] w).ahead = w.ahead.drop k := by
  induction k generalizing w with
  | zero => rfl
  | succ k ih => rw [Function.iterate_succ_apply, ih, ahead_turn, List.drop_tail]

theorem leaves_iterate (w : Sweep) (k : Nat) : (turn^[k] w).leaves = w.leaves := by
  induction k generalizing w with
  | zero => rfl
  | succ k ih => rw [Function.iterate_succ_apply, ih, leaves_turn]

theorem ahead_start (n : Node) : (start n).ahead = n.located [] := List.flatMap_singleton _ _

/-- The nodes of a tree are visited in preorder. -/
theorem next?_iterate (n : Node) (k : Nat) : (turn^[k] (start n)).next? = (n.located [])[k]? := by
  rw [next?_eq_head?, ahead_iterate, ahead_start, List.head?_drop]

/-- The stack is worked off when each node has had its turn. -/
theorem stack_iterate_eq_nil_iff (n : Node) (k : Nat) :
    (turn^[k] (start n)).stack = [] ↔ n.size ≤ k := by
  rw [← List.getLast?_eq_none_iff, ← next?, next?_iterate, List.getElem?_eq_none_iff,
    Node.length_located]

/-- The loop ends with the leaves. -/
theorem iterate_size (n : Node) : turn^[n.size] (start n) = ⟨[], n.leaves⟩ := by
  have hstack := (stack_iterate_eq_nil_iff n n.size).2 (Nat.le_refl _)
  have hleaves : (turn^[n.size] (start n)).found ++ Forest.leaves [] = Forest.leaves [n] := by
    have hsame := leaves_iterate (start n) n.size
    rwa [leaves, hstack] at hsame
  rw [Forest.leaves_nil, List.append_nil] at hleaves
  rw [Node.leaves, ← hleaves, ← hstack]

end Sweep

/-- The leaves of a node are its frontier. The loop that gathers them from a stack ends with them after just
as many turns as there are nodes, and visits the node at each address of the tree in one turn, and nothing
else. Under a new node, the leaves of some trees are as before, those of one tree after those of the other. -/
theorem Node.leaves_by_sweep (n : Node) :
    n.leaves = n.frontier ∧
    Sweep.turn^[n.size] (.start n) = ⟨[], n.leaves⟩ ∧
    (∀ k, (Sweep.turn^[k] (.start n)).stack = [] ↔ n.size ≤ k) ∧
    (∀ address m, n.descend? address = some m ↔
      ∃! k, (Sweep.turn^[k] (.start n)).next? = some (address, m)) ∧
    ∀ id ns, ns ≠ [] → (Node.branch id ns).leaves = ns.flatMap Node.leaves := by
  refine ⟨?_, Sweep.iterate_size n, Sweep.stack_iterate_eq_nil_iff n, ?_, ?_⟩
  · rw [Node.leaves, Forest.leaves_eq_frontier, Forest.frontier, Forest.frontier, List.append_nil]
  · intro address m
    simp only [Sweep.next?_iterate]
    exact Node.existsUnique_located_iff
  · intro id ns hne
    rw [Node.leaves, Forest.leaves_branch_cons id hne, List.append_nil, Forest.leaves_eq_flatMap]

/-- Two leaves are alike, and each is visited in a turn of its own. -/
theorem Node.leaves_by_sweep_alike :
    let leaf : Node := .leaf ⟨2, ['b']⟩
    let n : Node := .branch 4 [.leaf ⟨1, ['a']⟩, .branch 5 [leaf], leaf]
    n.leaves = [⟨1, ['a']⟩, ⟨2, ['b']⟩, ⟨2, ['b']⟩] ∧
      Sweep.turn^[5] (.start n) = ⟨[], n.leaves⟩ ∧
      (∃! k, (Sweep.turn^[k] (.start n)).next? = some ([1, 0], leaf)) ∧
      (∃! k, (Sweep.turn^[k] (.start n)).next? = some ([2], leaf)) ∧
      (Node.branch 9 [n, leaf]).leaves = n.leaves ++ leaf.leaves := by
  intro leaf n
  obtain ⟨hfrontier, hends, -, hvisits, hfolds⟩ := Node.leaves_by_sweep n
  refine ⟨hfrontier, hends, (hvisits [1, 0] leaf).1 rfl, (hvisits [2] leaf).1 rfl, ?_⟩
  rw [hfolds 9 [n, leaf] (List.cons_ne_nil n [leaf]), List.flatMap_cons, List.flatMap_singleton]

end Thicket
