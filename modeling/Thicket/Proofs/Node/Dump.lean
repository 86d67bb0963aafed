import Mathlib.Data.List.Basic
import Thicket.Node.Dump
import Thicket.Proofs.Node.Subtrees
import Thicket.Proofs.Text.Decimal

/-!
# The dump of a forest determines the forest

Texts stand in a dump as they are, so what a line means cannot be told from any character in it. It can
be told from where the line begins: a node begins with a bracket at the margin of its forest, and a list
of children with an opening brace at the margin of their parent, while whatever follows a forest has
another margin or begins with a closing brace (`Closes`). A line ends at its line feed, which no text
may contain. So a dump is taken apart from the front, line by line and block by block, in one way only
(`dumpAt_append_inj`), and equal dumps are dumps of equal forests (`dump_eq_iff`).
-/

namespace Thicket

/-! ## Margins -/

namespace Text

/-- How far the first line of a text stands in, and what it begins with. -/
def margin (t : Text) : Nat × Option Char :=
  ((t.takeWhile (· = ' ')).length, (t.dropWhile (· = ' ')).head?)

theorem margin_replicate (indent : Nat) {c : Char} (hc : c ≠ ' ') (rest : Text) :
    margin (List.replicate indent ' ' ++ c :: rest) = (indent, some c) := by
  have hspaces : ∀ d ∈ List.replicate indent ' ', decide (d = ' ') = true := fun d hd =>
    decide_eq_true (List.eq_of_mem_replicate hd)
  rw [margin, List.takeWhile_append_of_pos hspaces, List.dropWhile_append_of_pos hspaces,
    List.takeWhile_cons_of_neg (by simp [hc]), List.dropWhile_cons_of_neg (by simp [hc]),
    List.append_nil, List.length_replicate, List.head?_cons]

end Text

theorem Symbol.margin_line (indent : Nat) (s : Symbol) (rest : Text) :
    Text.margin (s.line indent ++ rest) = (indent, some '[') := by
  simp only [line, List.append_assoc]
  exact Text.margin_replicate indent (by decide) _

theorem Node.margin_braceLine (indent : Nat) {brace : Char} (h : brace ≠ ' ') (rest : Text) :
    Text.margin (braceLine indent brace ++ rest) = (indent, some brace) := by
  rw [braceLine, List.append_assoc]
  exact Text.margin_replicate indent h _

/-! ## Lines -/

/-- The parts of a line and what follows it. -/
theorem Symbol.line_append (indent : Nat) (s : Symbol) (rest : Text) :
    s.line indent ++ rest = List.replicate indent ' ' ++ ("[ID = ".toList ++ (Text.decimal s.id ++
      ' ' :: ("| TEXT = ".toList ++ ((s.text ++ [']']) ++ '\n' :: rest)))) := by
  simp only [line, List.append_assoc]
  rfl

/-- The line of a symbol is told from what follows, and the symbol from its line. -/
theorem Symbol.line_append_inj {indent : Nat} {s t : Symbol} {u v : Text} (hs : '\n' ∉ s.text)
    (ht : '\n' ∉ t.text) (h : s.line indent ++ u = t.line indent ++ v) : s = t ∧ u = v := by
  rw [line_append, line_append] at h
  have hnumber := List.append_cancel_left (List.append_cancel_left h)
  obtain ⟨hid, hafter⟩ := Text.decimal_append_inj (c := ' ') (d := ' ') rfl rfl hnumber
  have htext := List.append_cancel_left (List.cons.inj hafter).2
  -- the line feed of the line is the first one
  have hfree : ∀ {r : Symbol}, '\n' ∉ r.text → '\n' ∉ r.text ++ [']'] := by
    intro r hr
    rw [List.mem_append, List.mem_singleton]
    exact not_or.2 ⟨hr, by decide⟩
  obtain ⟨hbracket, hrest⟩ := Text.append_cons_inj (hfree hs) (hfree ht) htext
  have hsame : s.text = t.text := List.append_cancel_right hbracket
  refine ⟨?_, hrest⟩
  cases s
  cases t
  rw [Symbol.mk.injEq]
  exact ⟨hid, hsame⟩

namespace Forest

/-! ## Blocks -/

/-- The lines of the children of a node that stands `indent` columns in, with their braces. -/
def blockAt (indent : Nat) : Forest → Text
  | [] => []
  | c :: cs => Node.braceLine indent '\x7b' ++ (dumpAt (indent + Node.indentStep) (c :: cs) ++
      Node.braceLine indent '\x7d')

theorem dumpAt_cons (indent : Nat) (s : Symbol) (cs ns : Forest) :
    dumpAt indent (.mk s cs :: ns) = s.line indent ++ (blockAt indent cs ++ dumpAt indent ns) := by
  cases cs with
  | nil => rw [dumpAt, Node.dumpAt, blockAt, List.nil_append]
  | cons c cs => simp only [dumpAt, Node.dumpAt, blockAt, List.append_assoc]

/-- A text that neither goes on with a node of the forest that stands `indent` columns in nor with the
children of one. -/
def Closes (indent : Nat) (t : Text) : Prop :=
  Text.margin t ≠ (indent, some '[') ∧ Text.margin t ≠ (indent, some '\x7b')

theorem closes_nil (indent : Nat) : Closes indent [] := by
  constructor <;> intro h <;> cases h

theorem closes_braceLine (indent : Nat) (rest : Text) :
    Closes (indent + Node.indentStep) (Node.braceLine indent '\x7d' ++ rest) := by
  rw [Closes, Node.margin_braceLine indent (by decide)]
  constructor <;> simp

/-- After a node without children no list of children begins. -/
theorem margin_dumpAt_append {indent : Nat} {u : Text} (hu : Closes indent u) (ns : Forest) :
    Text.margin (dumpAt indent ns ++ u) ≠ (indent, some '\x7b') := by
  cases ns with
  | nil => exact hu.2
  | cons n ns =>
    obtain ⟨s, cs⟩ := n
    rw [dumpAt_cons, List.append_assoc, Symbol.margin_line]
    intro h
    cases h

/-! ## Taking a dump apart -/

/-- No text of a forest contains a line feed. -/
def FreeOfLineFeeds (forest : Forest) : Prop := ∀ n ∈ subtrees forest, '\n' ∉ n.text

theorem freeOfLineFeeds_cons {s : Symbol} {cs ns : Forest} (h : FreeOfLineFeeds (.mk s cs :: ns)) :
    '\n' ∉ s.text ∧ FreeOfLineFeeds cs ∧ FreeOfLineFeeds ns := by
  unfold FreeOfLineFeeds at h
  rw [subtrees, Node.subtrees, List.cons_append, List.forall_mem_cons, List.forall_mem_append] at h
  exact h

/-- A block is told from what follows, if that does not begin with another block, and the children from
their block, if a forest is told from its dump. -/
theorem blockAt_append_inj {indent : Nat} {cs ds : Forest} {u v : Text}
    (hforest : ∀ {u v : Text}, Closes (indent + Node.indentStep) u →
      Closes (indent + Node.indentStep) v →
      dumpAt (indent + Node.indentStep) cs ++ u = dumpAt (indent + Node.indentStep) ds ++ v →
      cs = ds ∧ u = v)
    (hu : Text.margin u ≠ (indent, some '\x7b')) (hv : Text.margin v ≠ (indent, some '\x7b'))
    (h : blockAt indent cs ++ u = blockAt indent ds ++ v) : cs = ds ∧ u = v := by
  match cs, ds with
  | [], [] => exact ⟨rfl, h⟩
  | [], d :: ds =>
    have hmargin := congrArg Text.margin h
    rw [blockAt, blockAt, List.append_assoc, Node.margin_braceLine indent (by decide)] at hmargin
    exact absurd hmargin hu
  | c :: cs, [] =>
    have hmargin := congrArg Text.margin h
    rw [blockAt, blockAt, List.append_assoc, Node.margin_braceLine indent (by decide)] at hmargin
    exact absurd hmargin.symm hv
  | c :: cs, d :: ds =>
    simp only [blockAt, List.append_assoc] at h
    obtain ⟨hchildren, hafter⟩ := hforest (closes_braceLine indent _) (closes_braceLine indent _)
      (List.append_cancel_left h)
    exact ⟨hchildren, List.append_cancel_left hafter⟩

/-- A dump is told from what follows, and the forest from its dump. -/
theorem dumpAt_append_inj (indent : Nat) (a b : Forest) {u v : Text} (ha : FreeOfLineFeeds a)
    (hb : FreeOfLineFeeds b) (hu : Closes indent u) (hv : Closes indent v)
    (h : dumpAt indent a ++ u = dumpAt indent b ++ v) : a = b ∧ u = v := by
  match a, b with
  | [], [] => exact ⟨rfl, h⟩
  | [], .mk t ds :: ms =>
    have hmargin := congrArg Text.margin h
    rw [dumpAt_cons, List.append_assoc, Symbol.margin_line] at hmargin
    exact absurd hmargin hu.1
  | .mk s cs :: ns, [] =>
    have hmargin := congrArg Text.margin h
    rw [dumpAt_cons, List.append_assoc, Symbol.margin_line] at hmargin
    exact absurd hmargin.symm hv.1
  | .mk s cs :: ns, .mk t ds :: ms =>
    obtain ⟨hs, hcs, hns⟩ := freeOfLineFeeds_cons ha
    obtain ⟨ht, hds, hms⟩ := freeOfLineFeeds_cons hb
    simp only [dumpAt_cons, List.append_assoc] at h
    obtain ⟨rfl, hblocks⟩ := Symbol.line_append_inj hs ht h
    obtain ⟨rfl, hafter⟩ := blockAt_append_inj
      (fun hu' hv' => dumpAt_append_inj (indent + Node.indentStep) cs ds hcs hds hu' hv')
      (margin_dumpAt_append hu ns) (margin_dumpAt_append hv ms) hblocks
    obtain ⟨rfl, hrest⟩ := dumpAt_append_inj indent ns ms hns hms hu hv hafter
    exact ⟨rfl, hrest⟩
termination_by size a
decreasing_by
  all_goals simp only [size, Node.size]; omega

/-- Forests whose texts contain no line feed have the same dump only if they are the same. -/
theorem dump_eq_iff {a b : Forest} (ha : ∀ n ∈ subtrees a, '\n' ∉ n.text)
    (hb : ∀ n ∈ subtrees b, '\n' ∉ n.text) : a.dump = b.dump ↔ a = b := by
  constructor
  · intro h
    have hdump : dumpAt 0 a ++ [] = dumpAt 0 b ++ [] := by
      rw [List.append_nil, List.append_nil]
      exact h
    exact (dumpAt_append_inj 0 a b ha hb (closes_nil 0) (closes_nil 0) hdump).1
  · rintro rfl
    rfl

/-- A child whose text looks like the end of its line and a closing brace is not taken for a sibling. -/
theorem dump_eq_iff_brackets :
    let a : Forest := [.mk ⟨1, "x]".toList⟩ [.leaf ⟨2, "] \x7d".toList⟩]]
    let b : Forest := [.leaf ⟨1, "x]".toList⟩, .leaf ⟨2, "] \x7d".toList⟩]
    (∀ n ∈ subtrees a, '\n' ∉ n.text) ∧ (∀ n ∈ subtrees b, '\n' ∉ n.text) ∧ a.dump ≠ b.dump := by
  intro a b
  have ha : ∀ n ∈ subtrees a, '\n' ∉ n.text := by decide +kernel
  have hb : ∀ n ∈ subtrees b, '\n' ∉ n.text := by decide +kernel
  refine ⟨ha, hb, fun hsame => ?_⟩
  have hlength := congrArg List.length ((dump_eq_iff ha hb).1 hsame)
  cases hlength

end Forest

end Thicket
