import Thicket.Node.Graph
import Thicket.Proofs.Text.Decimal

/-!
# Statements of a graph

The DOT text of a forest is a list of statements, each a node or an edge. `Statement.readGraph?` reads
the list back (`readGraph?_graph`). In a label a backslash takes its meaning from the character after
it, so a label ends at the first brace that has none before it, whatever text it was made from
(`readLabel_escape`).
-/

namespace Thicket

/-- A statement of a graph. -/
inductive Statement where
  | node (number : Nat) (symbol : Symbol)
  | edge (parent child : Nat)
deriving DecidableEq

namespace Statement

/-- What stands before the label of a record. -/
def recordOpen : Text := "[shape=record,label=\"\x7b".toList

/-- What stands after it. -/
def recordClose : Text := "\x7d\"];".toList

def write : Statement → Text
  | .node number s =>
    Vertex.name number ++ recordOpen ++ s.id.text ++ '|' :: Vertex.escape s.text ++ recordClose
  | .edge parent child => Vertex.name parent ++ "->".toList ++ Vertex.name child ++ [';']

/-! ## Labels -/

/-- The text that a label stands for, up to the brace that ends it, and the rest of the text. -/
def readLabel : Text → Text × Text
  | [] => ([], [])
  | '\\' :: c :: t => (c :: (readLabel t).1, (readLabel t).2)
  | c :: t => if c = '\x7d' then ([], c :: t) else (c :: (readLabel t).1, (readLabel t).2)

theorem readLabel_cons {c : Char} (hc : Vertex.isStructural c = false) (t : Text) :
    readLabel (c :: t) = (c :: (readLabel t).1, (readLabel t).2) := by
  have hbackslash : c ≠ '\\' := by
    rintro rfl
    cases hc
  have hbrace : c ≠ '\x7d' := by
    rintro rfl
    cases hc
  rw [readLabel, if_neg hbrace]
  intro d u hd
  exact absurd hd hbackslash

theorem readLabel_escape (t rest : Text) :
    readLabel (Vertex.escape t ++ '\x7d' :: rest) = (t, '\x7d' :: rest) := by
  induction t with
  | nil =>
    have hend : readLabel ('\x7d' :: rest) = ([], '\x7d' :: rest) := by
      rw [readLabel, if_pos rfl]
      intro d u hd
      exact absurd hd (by decide)
    exact hend
  | cons c t ih =>
    rw [Vertex.escape, List.flatMap_cons, ← Vertex.escape]
    by_cases hc : Vertex.isStructural c = true
    · rw [if_pos hc]
      show readLabel ('\\' :: c :: (Vertex.escape t ++ '\x7d' :: rest)) = _
      rw [readLabel, ih]
    · rw [if_neg hc]
      show readLabel (c :: (Vertex.escape t ++ '\x7d' :: rest)) = _
      rw [readLabel_cons (Bool.eq_false_iff.2 hc), ih]

theorem length_readLabel_le (t : Text) : (readLabel t).2.length ≤ t.length := by
  fun_induction readLabel t with
  | case1 => exact Nat.le_refl 0
  | case2 c t ih => simp only [List.length_cons]; omega
  | case3 => exact Nat.le_refl _
  | case4 c t _ _ ih => simp only [List.length_cons]; omega

/-! ## Reading a statement -/

/-- The number in the name of a vertex. -/
def readName? (t : Text) : Option (Nat × Text) := (t.dropPrefix? ['n']).bind Text.readDecimal?

/-- The symbol of a record. -/
def readRecord? (t : Text) : Option (Symbol × Text) := do
  let t ← t.dropPrefix? recordOpen
  let (id, t) ← Text.readDecimal? t
  let t ← t.dropPrefix? ['|']
  let t' ← (readLabel t).2.dropPrefix? recordClose
  return (⟨id, (readLabel t).1⟩, t')

/-- Where an edge leads. -/
def readTarget? (t : Text) : Option (Nat × Text) := do
  let t ← t.dropPrefix? "->".toList
  let (child, t) ← readName? t
  let t ← t.dropPrefix? [';']
  return (child, t)

/-- The statement that a text begins with: the name of a vertex, and then its record or an edge. -/
def read? (t : Text) : Option (Statement × Text) := do
  let (number, t) ← readName? t
  match readRecord? t with
  | some (s, t) => return (.node number s, t)
  | none =>
    let (child, t) ← readTarget? t
    return (.edge number child, t)

theorem readName?_name (number : Nat) {c : Char} (hc : c.isDigit = false) (rest : Text) :
    readName? (Vertex.name number ++ c :: rest) = some (number, c :: rest) := by
  have hprefix : (Vertex.name number ++ c :: rest).dropPrefix? ['n'] =
      some (Text.decimal number ++ c :: rest) := Text.dropPrefix?_append ['n'] _
  rw [readName?, hprefix, Option.bind_some, Text.readDecimal?_decimal number hc]

theorem readRecord?_write (s : Symbol) (rest : Text) :
    readRecord? (recordOpen ++ (s.id.text ++ '|' :: (Vertex.escape s.text ++ (recordClose ++ rest)))) =
      some (s, rest) := by
  have hclose : recordClose ++ rest = '\x7d' :: ("\"];".toList ++ rest) := rfl
  have hbar : ∀ t : Text, List.dropPrefix? ('|' :: t) ['|'] = some t := Text.dropPrefix?_append ['|']
  have hid : Text.readDecimal? (s.id.text ++ '|' :: (Vertex.escape s.text ++ (recordClose ++ rest))) =
      some (s.id, '|' :: (Vertex.escape s.text ++ (recordClose ++ rest))) :=
    Text.readDecimal?_decimal s.id rfl _
  have hlabel : readLabel (Vertex.escape s.text ++ (recordClose ++ rest)) =
      (s.text, recordClose ++ rest) := by
    rw [hclose, readLabel_escape]
  simp only [readRecord?, Text.dropPrefix?_append, Option.bind_eq_bind, Option.bind_some, hid, hbar,
    hlabel, Option.pure_def]

theorem readTarget?_write (child : Nat) (rest : Text) :
    readTarget? ("->".toList ++ (Vertex.name child ++ ';' :: rest)) = some (child, rest) := by
  have hsemicolon : List.dropPrefix? (';' :: rest) [';'] = some rest :=
    Text.dropPrefix?_append [';'] rest
  simp only [readTarget?, Text.dropPrefix?_append, Option.bind_eq_bind, Option.bind_some,
    readName?_name child (c := ';') rfl, hsemicolon, Option.pure_def]

/-- A written statement is read back, and nothing of what follows is read. -/
theorem read?_write (s : Statement) (rest : Text) : read? (s.write ++ rest) = some (s, rest) := by
  cases s with
  | node number s =>
    have hrecord := readRecord?_write s rest
    have hname : readName? ((node number s).write ++ rest) = some (number,
        recordOpen ++ (s.id.text ++ '|' :: (Vertex.escape s.text ++ (recordClose ++ rest)))) := by
      simp only [write, List.append_assoc, List.cons_append]
      exact readName?_name number (c := '[') rfl _
    simp only [read?, hname, hrecord, Option.bind_eq_bind, Option.bind_some, Option.pure_def]
  | edge parent child =>
    have htarget := readTarget?_write child rest
    have hname : readName? ((edge parent child).write ++ rest) = some (parent,
        "->".toList ++ (Vertex.name child ++ ';' :: rest)) := by
      simp only [write, List.append_assoc, List.cons_append, List.nil_append]
      exact readName?_name parent (c := '-') rfl _
    -- an edge does not begin like a record
    have hrecord : readRecord? ("->".toList ++ (Vertex.name child ++ ';' :: rest)) = none := rfl
    simp only [read?, hname, hrecord, htarget, Option.bind_eq_bind, Option.bind_some, Option.pure_def]

/-! ## Reading uses the text up -/

theorem length_readName?_lt {t rest : Text} {number : Nat} (h : readName? t = some (number, rest)) :
    rest.length < t.length := by
  obtain ⟨t₁, hn, hdigits⟩ := Option.bind_eq_some_iff.1 h
  have hname := Text.length_dropPrefix? hn
  have hnumber := Text.length_readDecimal?_le hdigits
  simp only [List.length_cons] at hname
  omega

theorem length_readRecord?_le {t rest : Text} {s : Symbol} (h : readRecord? t = some (s, rest)) :
    rest.length ≤ t.length := by
  obtain ⟨t₁, hopen, h⟩ := Option.bind_eq_some_iff.1 h
  obtain ⟨⟨id, t₂⟩, hid, h⟩ := Option.bind_eq_some_iff.1 h
  obtain ⟨t₃, hbar, h⟩ := Option.bind_eq_some_iff.1 h
  obtain ⟨t₄, hclose, h⟩ := Option.bind_eq_some_iff.1 h
  cases h
  have hopen := Text.length_dropPrefix? hopen
  have hid := Text.length_readDecimal?_le hid
  have hbar := Text.length_dropPrefix? hbar
  have hlabel := length_readLabel_le t₃
  have hclose := Text.length_dropPrefix? hclose
  omega

theorem length_readTarget?_le {t rest : Text} {child : Nat}
    (h : readTarget? t = some (child, rest)) : rest.length ≤ t.length := by
  obtain ⟨t₁, harrow, h⟩ := Option.bind_eq_some_iff.1 h
  obtain ⟨⟨number, t₂⟩, hname, h⟩ := Option.bind_eq_some_iff.1 h
  obtain ⟨t₃, hsemicolon, h⟩ := Option.bind_eq_some_iff.1 h
  cases h
  have harrow := Text.length_dropPrefix? harrow
  have hname := length_readName?_lt hname
  have hsemicolon := Text.length_dropPrefix? hsemicolon
  omega

/-- A statement takes at least one character. -/
theorem length_read?_lt {t rest : Text} {s : Statement} (h : read? t = some (s, rest)) :
    rest.length < t.length := by
  obtain ⟨⟨number, t₁⟩, hname, h⟩ := Option.bind_eq_some_iff.1 h
  have hname := length_readName?_lt hname
  simp only at h
  split at h
  · next hrecord =>
    cases h
    have := length_readRecord?_le hrecord
    omega
  · obtain ⟨⟨child, t₂⟩, htarget, h⟩ := Option.bind_eq_some_iff.1 h
    cases h
    have htarget := length_readTarget?_le htarget
    show t₂.length < t.length
    omega

/-! ## Reading a graph -/

/-- The statements up to the brace that ends a graph and its text. -/
def readBody? (t : Text) : Option (List Statement) :=
  if t = ['\x7d'] then some []
  else
    match _statement : read? t with
    | some (s, rest) => (readBody? rest).map (s :: ·)
    | none => none
termination_by t.length
decreasing_by exact length_read?_lt _statement

/-- The statements of a graph. -/
def readGraph? (t : Text) : Option (List Statement) :=
  (t.dropPrefix? "digraph\x7b".toList).bind readBody?

theorem readBody?_write (statements : List Statement) :
    readBody? (statements.flatMap write ++ ['\x7d']) = some statements := by
  induction statements with
  | nil =>
    rw [readBody?]
    rfl
  | cons s statements ih =>
    have hread := read?_write s (statements.flatMap write ++ ['\x7d'])
    rw [List.flatMap_cons, List.append_assoc, readBody?]
    split
    · next hend =>
      -- the end is no statement
      rw [hend] at hread
      cases hread
    · split
      · next s' rest hstatement =>
        obtain ⟨rfl, rfl⟩ := Prod.ext_iff.1 (Option.some.inj (hread.symm.trans hstatement))
        rw [ih, Option.map_some]
      · next hstatement =>
        rw [hread] at hstatement
        cases hstatement

end Statement

/-! ## The statements of a forest -/

/-- The statement of a vertex, followed by the one of the edge that leads to it. -/
def Vertex.toStatements (v : Vertex) : List Statement :=
  .node v.number v.symbol :: (v.parent.map (Statement.edge · v.number)).toList

theorem Vertex.statements_eq (v : Vertex) :
    v.statements = v.toStatements.flatMap Statement.write := by
  rw [toStatements, List.flatMap_cons, statements]
  cases v.parent with
  | none => rfl
  | some parent =>
    rw [Option.map_some, Option.toList_some, List.flatMap_singleton]
    rfl

namespace Forest

/-- The statements of the graph of a forest. -/
def statements (forest : Forest) : List Statement := forest.vertices.flatMap Vertex.toStatements

/-- The text of a graph is read as its statements. -/
theorem readGraph?_graph (forest : Forest) :
    Statement.readGraph? forest.graph = some forest.statements := by
  have hbody : forest.vertices.flatMap Vertex.statements =
      forest.statements.flatMap Statement.write := by
    rw [statements, List.flatMap_assoc]
    exact List.flatMap_congr fun v _ => v.statements_eq
  have htext : forest.graph =
      "digraph\x7b".toList ++ (forest.statements.flatMap Statement.write ++ ['\x7d']) := by
    rw [← hbody]
    exact List.append_assoc _ _ _
  rw [htext, Statement.readGraph?, Text.dropPrefix?_append, Option.bind_some]
  exact Statement.readBody?_write _

end Forest

end Thicket
