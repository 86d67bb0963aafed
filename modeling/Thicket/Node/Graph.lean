import Thicket.Node.Basic

/-!
# The graph of a forest

The nodes of a forest in preorder are the vertices of a graph, numbered from zero; an edge leads to
each node from its parent. In its DOT text every vertex is a record of the id and the text, followed
by the edge that leads to it. Characters that would be part of a record's structure are escaped by a
backslash; everything else, line breaks included, is written as it is.
-/

namespace Thicket

/-- A node of the graph, with the number of its parent. -/
structure Vertex where
  parent : Option Nat
  number : Nat
  symbol : Symbol

namespace Vertex

/-- The characters that have a meaning inside a record label or end it. -/
def isStructural (c : Char) : Bool :=
  c == '\x7b' || c == '\x7d' || c == '|' || c == '<' || c == '>' || c == '"' || c == '\\'

/-- A text as part of a record label. -/
def escape (t : Text) : Text := t.flatMap fun c => if isStructural c then ['\\', c] else [c]

/-- The name of a vertex. -/
def name (number : Nat) : Text := 'n' :: Text.decimal number

/-- The statements of a vertex and of the edge to it. -/
def statements (v : Vertex) : Text :=
  name v.number ++ "[shape=record,label=\"\x7b".toList ++ v.symbol.id.text ++
    '|' :: escape v.symbol.text ++ "\x7d\"];".toList ++
    match v.parent with
    | some parent => name parent ++ "->".toList ++ name v.number ++ [';']
    | none => []

end Vertex

namespace Forest

/-- The vertices of the graph of a forest, in preorder. -/
def vertices (forest : Forest) : List Vertex :=
  (walk (fun _ number => some number) 0 (forest.map (none, ·))).map fun (parent, number, s) =>
    ⟨parent, number, s⟩

/-- The graph of a forest as DOT text. -/
def graph (forest : Forest) : Text :=
  "digraph\x7b".toList ++ forest.vertices.flatMap Vertex.statements ++ ['\x7d']

end Forest

end Thicket
