import Mathlib.Data.List.Basic
import Thicket.Proofs.Node.Preorder
import Thicket.Proofs.Node.Statements

/-!
# The graph of a forest determines the forest

The statements of a graph number the nodes in preorder, and to each node that is no root leads one edge,
from its parent. `Statement.vertices` collects from the statements the vertices with their parents, and
`Forest.ofVertices` puts the nodes under their parents again, from the last to the first: when a node is
reached, its children have been put together already. So a forest is read back from the text of its
graph, whatever the texts of its nodes are (`graph_determines_forest`).
-/

namespace Thicket

/-! ## The vertices of a forest -/

namespace Vertex

/-- A vertex with what a visit tells of it. -/
def ofVisit (visit : Option Nat × Nat × Symbol) : Vertex := ⟨visit.1, visit.2.1, visit.2.2⟩

end Vertex

namespace Forest

/-- The vertices of a forest whose roots have a parent, numbered from `next`. -/
def verticesFrom (parent : Option Nat) (next : Nat) (forest : Forest) : List Vertex :=
  (visits (fun _ number => some number) parent next forest).map Vertex.ofVisit

theorem vertices_eq (forest : Forest) : forest.vertices = forest.verticesFrom none 0 := by
  rw [vertices, walk_eq_visits]
  rfl

theorem verticesFrom_cons (parent : Option Nat) (next : Nat) (s : Symbol) (cs ns : Forest) :
    verticesFrom parent next (.mk s cs :: ns) =
      ⟨parent, next, s⟩ :: (verticesFrom (some next) (next + 1) cs ++
        verticesFrom parent (next + (size cs + 1)) ns) := by
  rw [verticesFrom, visits, Node.visits, List.map_append, Node.size]
  rfl

/-- The numbers and symbols of the vertices are those of the nodes in preorder. -/
theorem vertices_numbered (forest : Forest) :
    forest.vertices.map (fun v => (v.number, v.symbol)) =
      (subtrees forest).zipIdx.map fun (n, number) => (number, n.symbol) := by
  rw [vertices_eq, verticesFrom, List.map_map]
  exact visits_numbered (fun _ number => some number) none 0 forest

theorem numbers_vertices (forest : Forest) :
    forest.vertices.map Vertex.number = List.range (size forest) := by
  have hnumbered := congrArg (List.map Prod.fst) (vertices_numbered forest)
  rw [List.map_map, List.map_map] at hnumbered
  have hrange : (subtrees forest).zipIdx.map Prod.snd = List.range (size forest) := by
    rw [List.zipIdx_map_snd, length_subtrees, List.range_eq_range']
  exact hnumbered.trans hrange

/-! ## Putting nodes under their parents -/

/-- Nodes that wait for their parents, with the numbers of these. -/
abbrev Waiting := List (Option Nat × Node)

/-- Puts the nodes that wait for a vertex under it, and has it wait itself. -/
def adopt (v : Vertex) (waiting : Waiting) : Waiting :=
  (v.parent, .mk v.symbol ((waiting.filter (·.1 = some v.number)).map Prod.snd)) ::
    waiting.filter (·.1 ≠ some v.number)

/-- The forest with the given vertices, each after its parent. -/
def ofVertices (vertices : List Vertex) : Forest := (vertices.foldr adopt []).map Prod.snd

/-- The parent, if there is one, is numbered before `next`. -/
def Precedes (next : Nat) (parent : Option Nat) : Prop :=
  ∀ number, parent = some number → number < next

theorem Precedes.mono {next next' : Nat} {parent : Option Nat} (h : Precedes next parent)
    (hle : next ≤ next') : Precedes next' parent :=
  fun number hnumber => Nat.lt_of_lt_of_le (h number hnumber) hle

/-- When all vertices of a forest are reached, its roots wait for their parent, in order and before the
nodes that were waiting. -/
theorem foldr_adopt_verticesFrom (parent : Option Nat) (next : Nat) (forest : Forest)
    (waiting : Waiting) (hparent : Precedes next parent)
    (hwaiting : ∀ q ∈ waiting, Precedes next q.1) :
    (verticesFrom parent next forest).foldr adopt waiting = forest.map (parent, ·) ++ waiting := by
  match forest with
  | [] => rfl
  | .mk s cs :: ns =>
    have hrest := foldr_adopt_verticesFrom parent (next + (size cs + 1)) ns waiting
      (hparent.mono (by omega)) fun q hq => (hwaiting q hq).mono (by omega)
    -- the trees to the right wait for the same parent as this one
    have hright : ∀ q ∈ ns.map (parent, ·) ++ waiting, Precedes next q.1 := by
      intro q hq
      rcases List.mem_append.1 hq with hq | hq
      · obtain ⟨n, -, rfl⟩ := List.mem_map.1 hq
        exact hparent
      · exact hwaiting q hq
    have hbelow := foldr_adopt_verticesFrom (some next) (next + 1) cs (ns.map (parent, ·) ++ waiting)
      (fun number hnumber => by cases hnumber; omega) fun q hq => (hright q hq).mono (by omega)
    have hothers : ∀ q ∈ ns.map (parent, ·) ++ waiting, q.1 ≠ some next := by
      intro q hq heq
      exact Nat.lt_irrefl next (hright q hq next heq)
    have hmine : ((cs.map (some next, ·) ++ (ns.map (parent, ·) ++ waiting)).filter
        (·.1 = some next)).map Prod.snd = cs := by
      rw [List.filter_append, List.filter_eq_self.2 (by simp),
        List.filter_eq_nil_iff.2 (by simpa using hothers), List.append_nil, List.map_map]
      exact List.map_id cs
    have hleft : (cs.map (some next, ·) ++ (ns.map (parent, ·) ++ waiting)).filter
        (·.1 ≠ some next) = ns.map (parent, ·) ++ waiting := by
      rw [List.filter_append, List.filter_eq_nil_iff.2 (by simp),
        List.filter_eq_self.2 (by simpa using hothers), List.nil_append]
    rw [verticesFrom_cons, List.foldr_cons, List.foldr_append, hrest, hbelow]
    show (parent, Node.mk s _) :: _ = _
    rw [hmine, hleft]
    rfl
termination_by size forest
decreasing_by
  · rw [size, Node.size]
    omega
  · rw [size, Node.size]
    omega

theorem ofVertices_vertices (forest : Forest) : ofVertices forest.vertices = forest := by
  have hroots := foldr_adopt_verticesFrom none 0 forest [] (fun _ h => by cases h)
    (fun _ h => by cases h)
  rw [ofVertices, vertices_eq, hroots, List.append_nil, List.map_map]
  exact List.map_id forest

end Forest

/-! ## Nodes and edges among statements -/

namespace Statement

/-- The number and the symbol of a node. -/
def node? : Statement → Option (Nat × Symbol)
  | .node number s => some (number, s)
  | .edge .. => none

/-- The parent that an edge to a vertex comes from. -/
def parentOf? (k : Nat) : Statement → Option Nat
  | .node .. => none
  | .edge parent child => if child = k then some parent else none

/-- The vertices that are stated, each with the parent that the first edge to it comes from. -/
def vertices (statements : List Statement) : List Vertex :=
  (statements.filterMap node?).map fun (number, s) =>
    ⟨(statements.filterMap (parentOf? number)).head?, number, s⟩

end Statement

namespace Forest

theorem filterMap_node?_toStatements (v : Vertex) :
    v.toStatements.filterMap Statement.node? = [(v.number, v.symbol)] := by
  cases h : v.parent <;> simp [Vertex.toStatements, Statement.node?, h]

theorem filterMap_parentOf?_toStatements (v : Vertex) (k : Nat) :
    v.toStatements.filterMap (Statement.parentOf? k) =
      if v.number = k then v.parent.toList else [] := by
  cases h : v.parent with
  | none => simp [Vertex.toStatements, Statement.parentOf?, h]
  | some parent =>
    by_cases hk : v.number = k <;>
      simp [Vertex.toStatements, Statement.parentOf?, h, hk, List.filterMap_cons]

theorem filterMap_node?_statements (forest : Forest) :
    forest.statements.filterMap Statement.node? =
      forest.vertices.map fun v => (v.number, v.symbol) := by
  rw [statements, List.filterMap_flatMap, List.map_eq_flatMap]
  simp only [filterMap_node?_toStatements]

/-- Among vertices with different numbers, an edge leads to each from its own parent only. -/
theorem flatMap_parent {vertices : List Vertex} (hnodup : (vertices.map Vertex.number).Nodup)
    {v : Vertex} (hv : v ∈ vertices) :
    vertices.flatMap (fun w => if w.number = v.number then w.parent.toList else []) =
      v.parent.toList := by
  induction vertices with
  | nil => cases hv
  | cons w vertices ih =>
    rw [List.map_cons, List.nodup_cons] at hnodup
    rw [List.flatMap_cons]
    rcases List.mem_cons.1 hv with rfl | hv
    · have hothers : ∀ u ∈ vertices, (if u.number = v.number then u.parent.toList else []) = [] := by
        intro u hu
        rw [if_neg]
        intro hsame
        exact hnodup.1 (hsame ▸ List.mem_map_of_mem hu)
      rw [if_pos rfl, List.flatMap_eq_nil_iff.2 hothers, List.append_nil]
    · have hdiffer : w.number ≠ v.number := by
        intro hsame
        exact hnodup.1 (hsame ▸ List.mem_map_of_mem hv)
      rw [if_neg hdiffer, List.nil_append, ih hnodup.2 hv]

theorem parents_of_mem_vertices {forest : Forest} {v : Vertex} (hv : v ∈ forest.vertices) :
    forest.statements.filterMap (Statement.parentOf? v.number) = v.parent.toList := by
  have hnodup : (forest.vertices.map Vertex.number).Nodup := by
    rw [numbers_vertices]
    exact List.nodup_range
  rw [statements, List.filterMap_flatMap]
  simp only [filterMap_parentOf?_toStatements]
  exact flatMap_parent hnodup hv

/-- No edge leads to where no node is. -/
theorem parents_of_size_le {forest : Forest} {k : Nat} (h : size forest ≤ k) :
    forest.statements.filterMap (Statement.parentOf? k) = [] := by
  rw [statements, List.filterMap_flatMap]
  simp only [filterMap_parentOf?_toStatements]
  rw [List.flatMap_eq_nil_iff]
  intro v hv
  have hnumber : v.number ∈ List.range (size forest) := by
    rw [← numbers_vertices]
    exact List.mem_map_of_mem hv
  rw [List.mem_range] at hnumber
  exact if_neg (by omega)

/-- No edge leads to a root. -/
theorem parents_of_isRoot {forest : Forest} {k : Nat} (h : IsRoot forest k) :
    forest.statements.filterMap (Statement.parentOf? k) = [] := by
  obtain ⟨s, hs⟩ := visits_of_isRoot (fun _ number => some number) h none 0
  have hmem : (⟨none, 0 + k, s⟩ : Vertex) ∈ forest.vertices := by
    rw [vertices_eq]
    exact List.mem_map_of_mem (f := Vertex.ofVisit) (List.mem_of_getElem? hs)
  have hparents := parents_of_mem_vertices hmem
  rwa [Nat.zero_add] at hparents

/-- Just one edge leads to a child, and it comes from the parent. -/
theorem parents_of_isChild {forest : Forest} {p k : Nat} (h : IsChild forest p k) :
    forest.statements.filterMap (Statement.parentOf? k) = [p] := by
  obtain ⟨own, s, hs⟩ := visits_of_isChild (fun _ number => some number) h none 0
  have hmem : (⟨some (0 + p), 0 + k, s⟩ : Vertex) ∈ forest.vertices := by
    rw [vertices_eq]
    exact List.mem_map_of_mem (f := Vertex.ofVisit) (List.mem_of_getElem? hs)
  have hparents := parents_of_mem_vertices hmem
  rwa [Nat.zero_add, Nat.zero_add] at hparents

/-- The statements state the vertices that they were made of. -/
theorem vertices_statements (forest : Forest) :
    Statement.vertices forest.statements = forest.vertices := by
  rw [Statement.vertices, filterMap_node?_statements, List.map_map]
  refine (List.map_congr_left fun v hv => ?_).trans (List.map_id _)
  show (⟨(forest.statements.filterMap (Statement.parentOf? v.number)).head?, v.number, v.symbol⟩ :
    Vertex) = v
  have hhead : v.parent.toList.head? = v.parent := by cases v.parent <;> rfl
  rw [parents_of_mem_vertices hv, hhead]

/-! ## Reading a forest -/

/-- The forest of which a text is the graph. -/
def ofGraph? (t : Text) : Option Forest :=
  (Statement.readGraph? t).map fun statements => ofVertices (Statement.vertices statements)

theorem ofGraph?_graph (forest : Forest) : ofGraph? forest.graph = some forest := by
  rw [ofGraph?, readGraph?_graph, Option.map_some, vertices_statements, ofVertices_vertices]

/-- The text of a graph is read as a list of statements. The nodes that these state are numbered from
zero and are the nodes of the forest in preorder. No edge leads to a root or to where no node is, and
just one edge leads to any other node: it comes from its parent, whose number is smaller. From the text
the whole forest is read back, so two forests with the same graph are the same. -/
theorem graph_determines_forest (forest : Forest) :
    ∃ statements, Statement.readGraph? forest.graph = some statements ∧
      statements.filterMap Statement.node? =
        ((subtrees forest).zipIdx.map fun (n, number) => (number, n.symbol)) ∧
      (∀ k < size forest, IsRoot forest k ∨ ∃ p, IsChild forest p k) ∧
      (∀ k, IsRoot forest k ∨ size forest ≤ k →
        statements.filterMap (Statement.parentOf? k) = []) ∧
      (∀ p k, IsChild forest p k → p < k ∧ statements.filterMap (Statement.parentOf? k) = [p]) ∧
      ofGraph? forest.graph = some forest ∧
      ∀ other : Forest, other.graph = forest.graph → other = forest := by
  refine ⟨forest.statements, readGraph?_graph forest, ?_, fun k => isRoot_or_isChild forest,
    fun k h => h.elim parents_of_isRoot parents_of_size_le,
    fun p k h => ⟨h.lt, parents_of_isChild h⟩, ofGraph?_graph forest, ?_⟩
  · rw [filterMap_node?_statements, vertices_numbered]
  · intro other hsame
    have hread := ofGraph?_graph other
    rw [hsame, ofGraph?_graph forest] at hread
    exact (Option.some.inj hread).symm

end Forest

end Thicket
