import Thicket.Pattern.Escape

/-!
# Bracketed classes in a written pattern

A class in brackets is a list of characters, ranges, escapes and nested classes. Two ampersands,
hyphens or tildes between such lists intersect, subtract or take the symmetric difference; the
operators group to the left. A caret after the opening bracket negates the whole.

Every class and every operator adds to how deeply a class is nested, and so does a list of more than
one member.
-/

namespace Thicket.Pattern

/-- The operators between the parts of a class. -/
inductive ClassOperator where
  | intersection
  | difference
  | symmetricDifference

/-- A set, and how deeply the class that describes it is nested. -/
structure ClassSet where
  chars : CharSet
  depth : Nat

/-- A class that has been read up to some point: what stands before the last operator, the members
since then, and how deeply each of them is nested. -/
structure OpenClass where
  negated : Bool
  left : Option (ClassOperator × ClassSet)
  members : CharSet
  depths : List Nat

namespace OpenClass

def start (negated : Bool) : OpenClass := ⟨negated, none, .none, []⟩

def add (k : OpenClass) (s : ClassSet) : OpenClass :=
  { k with members := k.members.union s.chars, depths := s.depth :: k.depths }

/-- The set before the last operator combined with the members after it. -/
def combined (f : Flags) (k : OpenClass) : ClassSet :=
  let depth := depthTogether k.depths
  match k.left with
  | none => ⟨k.members, depth⟩
  | some (op, left) =>
    let a := f.fold left.chars
    let b := f.fold k.members
    let chars := match op with
      | .intersection => a.inter b
      | .difference => a.diff b
      | .symmetricDifference => a.symmDiff b
    ⟨chars, max left.depth depth + 1⟩

/-- Puts an operator after what has been read. -/
def operate (f : Flags) (k : OpenClass) (op : ClassOperator) : OpenClass :=
  { k with left := some (op, k.combined f), members := .none, depths := [] }

/-- The set of the whole class. -/
def close? (f : Flags) (k : OpenClass) : Option ClassSet :=
  let s := k.combined f
  (f.close? k.negated s.chars).map (⟨·, s.depth + 1⟩)

end OpenClass

/-! ## Members -/

/-- Reads a character or an escape inside brackets. -/
def readMember (f : Flags) : Text → Option (Escaped × Text)
  | [] => none
  | '\\' :: rest => readEscape f rest
  | c :: rest => some (.character c false, rest)

/-- The set of a member on its own. -/
def memberSet? (f : Flags) : Escaped → Option CharSet
  | .character c _ => if f.unicode || isSingleByte c then some (.single c) else none
  | .set s => some s
  | .assert _ => none
where
  isSingleByte (c : Char) : Bool := c.toNat < 0x80

/-- The set of a range between two members, which have to be characters in ascending order. -/
def rangeSet? (f : Flags) : Escaped → Escaped → Option CharSet
  | .character a x, .character b y =>
    if a ≤ b && (memberSet? f (.character a x)).isSome && (memberSet? f (.character b y)).isSome then
      some (.range a b)
    else none
  | _, _ => none

/-- Reads a member, or a range if a hyphen follows that is neither the last character of the class
nor the first of an operator. -/
def readRange (f : Flags) (t : Text) : Option (CharSet × Text) := do
  let (first, rest) ← readMember f t
  let single : Option (CharSet × Text) := do
    let s ← memberSet? f first
    some (s, f.skip rest)
  match f.skip rest with
  | [] => none
  | '-' :: afterHyphen =>
    match f.ahead? afterHyphen with
    | some ']' | some '-' => single
    | _ => do
      let (last, left) ← readMember f (f.skip afterHyphen)
      let s ← rangeSet? f first last
      some (s, left)
  | _ => single

/-- Reads a named ASCII class from its opening bracket on; nothing if there is none. -/
def readAsciiClass (f : Flags) (t : Text) : Option (CharSet × Text) :=
  match t with
  | '[' :: ':' :: rest => do
    let (negated, rest) := match rest with
      | '^' :: rest => (true, rest)
      | rest => (false, rest)
    let name := rest.takeWhile (· != ':')
    match rest.drop name.length with
    | ':' :: ']' :: left => do
      let s ← Flags.asciiClass? name
      some (← f.close? negated s, left)
    | _ => none
  | _ => none

/-- Whether a named ASCII class begins here, legal under the flags or not. -/
def namesAsciiClass (t : Text) : Bool := (readAsciiClass {} t).isSome

/-! ## Classes -/

/-- Takes hyphens at the start of a class as characters; the text's length bounds the rounds. -/
def openHyphens (f : Flags) (k : OpenClass) : Nat → Text → OpenClass × Text
  | fuel + 1, '-' :: rest => openHyphens f (k.add ⟨.single '-', 0⟩) fuel (f.skip rest)
  | _, rest => (k, rest)

/-- Reads what may stand after an opening bracket: a caret, hyphens, or a closing bracket that is
the first member. -/
def openClass (f : Flags) (t : Text) : OpenClass × Text :=
  let (negated, rest) := match f.skip t with
    | '^' :: rest => (true, f.skip rest)
    | rest => (false, rest)
  match openHyphens f (.start negated) rest.length rest with
  | (k, ']' :: rest) =>
    if k.depths.isEmpty then (k.add ⟨.single ']', 0⟩, f.skip rest) else (k, ']' :: rest)
  | opened => opened

/-- Reads a class up to its closing bracket. Every round takes at least a character, so the text's
length bounds the rounds. -/
def readClassFrom (f : Flags) (k : OpenClass) : Nat → Text → Option (ClassSet × Text)
  | 0, _ => none
  | fuel + 1, t =>
    match f.skip t with
    | [] => none
    | ']' :: rest => (k.close? f).map (·, rest)
    | '&' :: '&' :: rest => readClassFrom f (k.operate f .intersection) fuel rest
    | '-' :: '-' :: rest => readClassFrom f (k.operate f .difference) fuel rest
    | '~' :: '~' :: rest => readClassFrom f (k.operate f .symmetricDifference) fuel rest
    | '[' :: rest =>
      if namesAsciiClass ('[' :: rest) then do
        let (s, left) ← readAsciiClass f ('[' :: rest)
        readClassFrom f (k.add ⟨s, 0⟩) fuel left
      else do
        let (inner, rest) := openClass f rest
        let (s, left) ← readClassFrom f inner fuel rest
        readClassFrom f (k.add s) fuel left
    | t => do
      let (s, left) ← readRange f t
      readClassFrom f (k.add ⟨s, 0⟩) fuel left

/-- Reads a class from behind its opening bracket on. -/
def readClass (f : Flags) (t : Text) : Option (ClassSet × Text) :=
  let (k, rest) := openClass f t
  readClassFrom f k (t.length + 1) rest

end Thicket.Pattern
