import Thicket.Pattern.Bracket
import Thicket.Unicode.Letter
import Thicket.Unicode.Numeral

/-!
# Reading a written pattern

`ofText?` reads a pattern from its written form and gives nothing if the form is malformed or nested
too deeply. The reader goes through the text once and keeps the
groups that are open, innermost first. Each level holds its finished branches and the items of the
branch that is being read; flags set inside a group hold up to its end.
-/

namespace Thicket.Pattern

/-! ## Open groups -/

/-- A pattern, and how deeply its written form is nested. -/
structure Part where
  pattern : Pattern
  depth : Nat

/-- An item of a branch: a part of the pattern, or a place where flags were set, which cannot be
repeated. -/
inductive Item where
  | part (p : Part)
  | flags

namespace Item

def part? : Item → Option Part
  | .part p => some p
  | .flags => none

def depth : Item → Nat
  | .part p => p.depth
  | .flags => 0

end Item

/-- A group that is being read, or the whole pattern; lists hold the latest entry first. -/
structure Level where
  /-- The number of the group, if it is numbered. -/
  number : Option Nat
  /-- The flags that hold again after the group. -/
  outside : Flags
  finished : List Part
  items : List Item

namespace Level

def start (number : Option Nat) (outside : Flags) : Level := ⟨number, outside, [], []⟩

/-- The branch that is being read. -/
def branch (l : Level) : Part where
  pattern := sequence ((l.items.reverse.filterMap Item.part?).map Part.pattern)
  depth := depthTogether (l.items.map Item.depth)

/-- Ends the branch that is being read and begins another one. -/
def nextBranch (l : Level) : Level := { l with finished := l.branch :: l.finished, items := [] }

/-- What the whole level describes. -/
def whole (l : Level) : Part :=
  let branches := (l.branch :: l.finished).reverse
  let p := choice (branches.map Part.pattern)
  { pattern := match l.number with
      | some number => .group number p
      | none => p
    depth := depthTogether (branches.map Part.depth) }

def push (l : Level) (p : Part) : Level := { l with items := .part p :: l.items }

/-- Takes the latest item back, to repeat it. -/
def pop? (l : Level) : Option (Part × Level) :=
  match l.items with
  | .part p :: items => some (p, { l with items })
  | _ => none

end Level

/-- What has been read of a pattern. -/
structure Reading where
  flags : Flags
  level : Level
  enclosing : List Level
  groups : Nat
  names : List Text

namespace Reading

def start : Reading := ⟨{}, .start none {}, [], 0, []⟩

def push (r : Reading) (p : Part) : Reading := { r with level := r.level.push p }

/-- Opens a group inside which the given flags hold. -/
def openLevel (r : Reading) (number : Option Nat) (flags : Flags) : Reading :=
  { r with flags, level := .start number r.flags, enclosing := r.level :: r.enclosing }

/-- Sets flags for the rest of the innermost group. -/
def setFlags (r : Reading) (flags : Flags) : Reading :=
  { r with flags, level := { r.level with items := .flags :: r.level.items } }

def openNumbered (r : Reading) : Reading :=
  { r.openLevel (some (r.groups + 1)) r.flags with groups := r.groups + 1 }

/-- Closes the innermost group; nothing if none is open. -/
def closeLevel? (r : Reading) : Option Reading :=
  match r.enclosing with
  | [] => none
  | outer :: enclosing =>
    let inner := r.level.whole
    some { r with
      flags := r.level.outside
      level := outer.push ⟨inner.pattern, inner.depth + 1⟩
      enclosing }

/-- Repeats the latest item; the flag `swapGreed` makes greedy repetitions lazy and lazy ones
greedy. -/
def repeatLast? (r : Reading) (least : Nat) (most : Option Nat) (greedy : Bool) : Option Reading := do
  let (p, level) ← r.level.pop?
  let rounds := repeated p.pattern least most (greedy != r.flags.swapGreed)
  some { r with level := level.push ⟨rounds, p.depth + 1⟩ }

/-- What has been read, if no group is left open. -/
def finish? (r : Reading) : Option Part :=
  match r.enclosing with
  | [] => some r.level.whole
  | _ => none

end Reading

/-! ## Groups -/

/-- Reads flags up to the bracket or colon after them: letters, each at most once, those after a
hyphen switched off. `seen` holds what came before, the hyphen as nothing, and is given back. -/
def readFlags (flags : Flags) (seen : List (Option Flag)) :
    Text → Option ((Flags × List (Option Flag)) × Text)
  | [] => none
  | c :: rest =>
    if c = ')' ∨ c = ':' then
      if seen.head? = some none then none else some ((flags, seen), c :: rest)
    else if c = '-' then
      if none ∈ seen then none else readFlags flags (none :: seen) rest
    else do
      let flag ← Flag.ofLetter? c
      if some flag ∈ seen then none
      else readFlags (flags.set flag (none ∉ seen)) (some flag :: seen) rest

/-- Whether a character may stand in the name of a group. -/
def isNameChar (isFirst : Bool) (c : Char) : Bool :=
  c == '_' || Unicode.letter.contains c ||
    (!isFirst && (Unicode.numeral.contains c || c == '.' || c == '[' || c == ']'))

/-- Opens a named group after the opening angle bracket; a name may be given once. -/
def openNamed? (r : Reading) (t : Text) : Option (Reading × Text) :=
  let name := t.takeWhile (· != '>')
  match t.drop name.length, name with
  | '>' :: rest, c :: more =>
    if isNameChar true c && more.all (isNameChar false) && !r.names.contains name then
      some ({ r.openNumbered with names := name :: r.names }, rest)
    else none
  | _, _ => none

/-- Opens a group after its opening parenthesis, or sets flags. -/
def openGroup? (r : Reading) (t : Text) : Option (Reading × Text) :=
  match r.flags.skip t with
  | '?' :: 'P' :: '<' :: rest => openNamed? r rest
  | '?' :: '<' :: rest => openNamed? r rest
  | '?' :: rest => do
    let ((flags, seen), rest) ← readFlags r.flags [] rest
    match rest, seen with
    | ':' :: rest, _ => some (r.openLevel none flags, rest)
    -- Without flags the question mark is a repetition that has nothing to repeat.
    | _, [] => none
    | rest, _ => some (r.setFlags flags, rest.tail)
  | rest => some (r.openNumbered, rest)

/-! ## Repetitions -/

/-- Reads the question mark that makes a repetition lazy. -/
def readGreed : Text → Bool × Text
  | '?' :: rest => (false, rest)
  | rest => (true, rest)

/-- Reads a count after its opening brace: `n`, `n,` or `n,m`, and the closing brace. -/
def readCount (f : Flags) (t : Text) : Option ((Nat × Option Nat) × Text) := do
  let (least, rest) ← readDecimal f (f.skip t)
  let (count, rest) ← match rest with
    | ',' :: rest =>
      match f.skip rest with
      | '\x7d' :: rest => some ((least, none), '\x7d' :: rest)
      | rest => do
        let (most, rest) ← readDecimal f rest
        if least ≤ most then some ((least, some most), rest) else none
    | rest => some ((least, some least), rest)
  match rest with
  | '\x7d' :: rest => some (count, f.skip rest)
  | _ => none

/-! ## The whole pattern -/

/-- Reads a single element that is neither a group nor an operator. -/
def readElement (f : Flags) : Text → Option (Part × Text)
  | [] => none
  | '[' :: rest => (readClass f rest).map fun (s, left) => (⟨ofSet f.alphabet s.chars, s.depth⟩, left)
  | '.' :: rest => (f.dot?).map (⟨·, 0⟩, rest)
  | '^' :: rest => some (⟨.assert f.caret, 0⟩, rest)
  | '$' :: rest => some (⟨.assert f.dollar, 0⟩, rest)
  | '\\' :: rest => do
    let (e, left) ← readEscape f rest
    let p ← match e with
      | .character c asByte =>
        if asByte && !f.unicode && 0x80 ≤ c.toNat then none else some (f.character c)
      | .set s => some (ofSet f.alphabet s)
      | .assert a => some (.assert a)
    some (⟨p, 0⟩, left)
  | c :: rest => some (⟨f.character c, 0⟩, rest)

/-- Reads on from what has been read. Every round takes at least a character, so the text's length
bounds the rounds. -/
def readFrom (r : Reading) : Nat → Text → Option Part
  | 0, _ => none
  | fuel + 1, t =>
    let repeatedBy (least : Nat) (most : Option Nat) (rest : Text) : Option Part := do
      let (greedy, left) := readGreed rest
      readFrom (← r.repeatLast? least most greedy) fuel left
    match r.flags.skip t with
    | [] => r.finish?
    | '(' :: rest => do
      let (r, left) ← openGroup? r rest
      readFrom r fuel left
    | ')' :: rest => do readFrom (← r.closeLevel?) fuel rest
    | '|' :: rest => readFrom { r with level := r.level.nextBranch } fuel rest
    | '?' :: rest => repeatedBy 0 (some 1) rest
    | '*' :: rest => repeatedBy 0 none rest
    | '+' :: rest => repeatedBy 1 none rest
    | '\x7b' :: rest => do
      let ((least, most), left) ← readCount r.flags rest
      repeatedBy least most left
    | t => do
      let (p, left) ← readElement r.flags t
      readFrom (r.push p) fuel left

/-- How deeply a written pattern may be nested. -/
def depthLimit : Nat := 250

/-- The pattern with a written form, unless that is nested too deeply. -/
def ofText? (t : Text) : Option Pattern := do
  let whole ← readFrom .start (t.length + 1) t
  if whole.depth ≤ depthLimit then some whole.pattern else none

end Thicket.Pattern
