import Thicket.Node.Basic

/-!
# The indented dump of a forest

Each node takes a line with its id and text; the children of a node follow between braces, four
columns further in. Texts are written as they are.
-/

namespace Thicket

/-- How far children stand further in than their parent. -/
def Node.indentStep : Nat := 4

/-- The line of a symbol, with its line feed. -/
def Symbol.line (indent : Nat) (s : Symbol) : Text :=
  List.replicate indent ' ' ++ "[ID = ".toList ++ s.id.text ++ " | TEXT = ".toList ++ s.text ++
    "]\n".toList

/-- The line of a brace, with its line feed. -/
def Node.braceLine (indent : Nat) (brace : Char) : Text :=
  List.replicate indent ' ' ++ [brace, '\n']

mutual

/-- The lines of a tree that stands `indent` columns in. -/
def Node.dumpAt (indent : Nat) : Node → Text
  | .mk s [] => s.line indent
  | .mk s (c :: cs) =>
    s.line indent ++ Node.braceLine indent '\x7b' ++
      Forest.dumpAt (indent + Node.indentStep) (c :: cs) ++ Node.braceLine indent '\x7d'

/-- The lines of a forest that stands `indent` columns in. -/
def Forest.dumpAt (indent : Nat) : Forest → Text
  | [] => []
  | n :: ns => Node.dumpAt indent n ++ Forest.dumpAt indent ns

end

/-- The dump of a tree. -/
def Node.dump (n : Node) : Text := n.dumpAt 0

/-- The dump of a forest. -/
def Forest.dump (forest : Forest) : Text := forest.dumpAt 0

end Thicket
