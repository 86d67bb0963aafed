import Thicket.Symbol

/-!
# Nodes and forests

A node is a symbol with the nodes it was folded from; a forest is a list of nodes. Tokens are nodes
without children.

`walk` goes through a forest in preorder, numbering the nodes from zero; the outline of depths and
the numbering of the graph are both readings of it.
-/

namespace Thicket

/-- A symbol and the nodes below it. -/
inductive Node where
  | mk (symbol : Symbol) (children : List Node)

/-- Trees side by side. -/
abbrev Forest := List Node

namespace Node

/-- A node without children. -/
def leaf (s : Symbol) : Node := .mk s []

/-- A node of a nonterminal. -/
def branch (id : SymbolId) (children : List Node) : Node := .mk (.nonterminal id) children

def symbol : Node → Symbol
  | .mk s _ => s

def children : Node → List Node
  | .mk _ cs => cs

def id (n : Node) : SymbolId := n.symbol.id

def text (n : Node) : Text := n.symbol.text

def isLeaf (n : Node) : Bool := n.children.isEmpty

/-- The direct children with an id, left to right. -/
def childrenWith (n : Node) (id : SymbolId) : List Node := n.children.filter (·.id = id)

end Node

/-! ## The number of nodes -/

mutual

/-- The number of nodes of a tree. -/
def Node.size : Node → Nat
  | .mk _ cs => Forest.size cs + 1

/-- The number of nodes of a forest. -/
def Forest.size : Forest → Nat
  | [] => 0
  | n :: ns => Node.size n + Forest.size ns

end

namespace Forest

theorem size_append (a b : Forest) : size (a ++ b) = size a + size b := by
  induction a with
  | nil => simp [size]
  | cons n ns ih =>
    rw [List.cons_append, size, size, ih]
    omega

theorem size_cons_children (n : Node) (rest : Forest) :
    size (n.children ++ rest) < size (n :: rest) := by
  cases n with
  | mk s cs =>
    rw [size_append, size, Node.size, Node.children]
    omega

/-! ## Leaves -/

/-- The symbols of the nodes without children below the nodes of a forest, left to right. The front
of the list is the node to look at next. -/
def leaves (todo : Forest) : List Symbol :=
  match todo with
  | [] => []
  | n :: rest =>
    if n.isLeaf then n.symbol :: leaves rest else leaves (n.children ++ rest)
termination_by size todo
decreasing_by
  · rw [size]
    cases n
    rw [Node.size]
    omega
  · exact size_cons_children n rest

/-! ## Preorder -/

/-- Goes through nodes in preorder. Each node comes with a label and is given a number, counted from
`next`; the label of a child is made from the label and the number of its parent. -/
def walk {α : Type} (childLabel : α → Nat → α) (next : Nat) (todo : List (α × Node)) :
    List (α × Nat × Symbol) :=
  match todo with
  | [] => []
  | (a, n) :: rest =>
    (a, next, n.symbol) ::
      walk childLabel (next + 1) (n.children.map (childLabel a next, ·) ++ rest)
termination_by size (todo.map Prod.snd)
decreasing_by
  simp only [List.map_append, List.map_map, List.map_cons, Function.comp_def, List.map_id']
  exact size_cons_children n _

/-- The symbols of a forest in preorder, each with its depth. -/
def outline (forest : Forest) : List (Nat × Symbol) :=
  (walk (fun depth _ => depth + 1) 0 (forest.map (0, ·))).map fun (depth, _, s) => (depth, s)

end Forest

/-- The leaf symbols under a node, left to right; a node without children is its own leaf. -/
def Node.leaves (n : Node) : List Symbol := Forest.leaves [n]

end Thicket
