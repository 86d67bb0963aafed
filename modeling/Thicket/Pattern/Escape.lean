import Thicket.Pattern.Property

/-!
# Escapes and blanks in a written pattern

The readers of this module take the text that is left of a pattern and give what they read together
with what is left after it, or nothing if the text is malformed. In verbose mode white space and
comments between the elements of a pattern are skipped.
-/

namespace Thicket.Pattern

/-! ## Depth -/

/-- How deeply parts that stand together are nested: more than one of them are a part of their own. -/
def depthTogether : List Nat → Nat
  | [] => 0
  | [d] => d
  | ds => ds.foldl max 0 + 1

/-! ## Blanks -/

def isBlank (c : Char) : Bool := Unicode.blank.contains c

/-- Skips white space and comments, which run from `#` to the end of the line. -/
def dropComments (inComment : Bool) : Text → Text
  | [] => []
  | c :: rest =>
    if inComment then dropComments (c != '\n') rest
    else if isBlank c then dropComments false rest
    else if c = '#' then dropComments true rest
    else c :: rest

/-- The first character that is neither white space nor the first hash sign. -/
def firstShown? (hashSeen : Bool) : Text → Option Char
  | [] => none
  | c :: rest =>
    if isBlank c then firstShown? hashSeen rest
    else if c = '#' ∧ !hashSeen then firstShown? true rest
    else some c

namespace Flags

/-- Skips what verbose mode lets stand between elements. -/
def skip (f : Flags) (t : Text) : Text := if f.verbose then dropComments false t else t

/-- The character that decides what a hyphen in brackets stands for. In verbose mode the blanks after
the hyphen and a hash sign do not count, but the words of a comment do; if nothing else follows, the
very next character is taken. -/
def ahead? (f : Flags) (t : Text) : Option Char :=
  if f.verbose then firstShown? false t <|> t.head? else t.head?

end Flags

/-! ## Numbers -/

/-- The value of a hexadecimal digit. -/
def hexDigit? (c : Char) : Option Nat :=
  if '0' ≤ c ∧ c ≤ '9' then some (c.toNat - '0'.toNat)
  else if 'a' ≤ c ∧ c ≤ 'f' then some (c.toNat - 'a'.toNat + 10)
  else if 'A' ≤ c ∧ c ≤ 'F' then some (c.toNat - 'A'.toNat + 10)
  else none

/-- The character with a code point; none for surrogates and beyond the last one. -/
def charOfCode? (n : Nat) : Option Char := if n.isValidChar then some (Char.ofNat n) else none

/-- Reads a given number of hexadecimal digits after a value read before. -/
def readHexDigits (f : Flags) (value : Nat) : Nat → Text → Option (Char × Text)
  | 0, rest => (charOfCode? value).map (·, rest)
  | n + 1, c :: rest => do
    let digit ← hexDigit? c
    readHexDigits f (value * 16 + digit) n (f.skip rest)
  | _ + 1, [] => none

/-- Reads hexadecimal digits up to a closing brace; `digits` tells how many came before. The text
shrinks by at least a character a round, so its length bounds the rounds. -/
def readHexBraced (f : Flags) (value digits : Nat) : Nat → Text → Option (Char × Text)
  | 0, _ => none
  | _ + 1, [] => none
  | fuel + 1, c :: rest =>
    if c = '\x7d' then
      if digits = 0 then none else (charOfCode? value).map (·, f.skip rest)
    else do
      let digit ← hexDigit? c
      let value := value * 16 + digit
      if value < UInt32.size then readHexBraced f value (digits + 1) fuel (f.skip rest) else none

/-- Reads the code point after `\x`, `\u` or `\U`: that many digits, or any number in braces. -/
def readHex (f : Flags) (digits : Nat) (t : Text) : Option (Char × Text) :=
  match f.skip t with
  | '\x7b' :: rest => readHexBraced f 0 0 t.length (f.skip rest)
  | rest => readHexDigits f 0 digits rest

/-- Reads decimal digits after a value read before; the text's length bounds the rounds. -/
def readDigits (f : Flags) (value : Option Nat) : Nat → Text → Option Nat × Text
  | 0, rest => (value, rest)
  | _ + 1, [] => (value, [])
  | fuel + 1, c :: rest =>
    if c.isDigit then
      readDigits f (some (value.getD 0 * 10 + (c.toNat - '0'.toNat))) fuel (f.skip rest)
    else (value, c :: rest)

/-- Reads a number of at most 32 bits, with white space around it. -/
def readDecimal (f : Flags) (t : Text) : Option (Nat × Text) :=
  match readDigits f none t.length (t.dropWhile isBlank) with
  | (some n, rest) => if n < UInt32.size then some (n, f.skip (rest.dropWhile isBlank)) else none
  | (none, _) => none

/-! ## Escapes -/

/-- What an escape stands for. -/
inductive Escaped where
  /-- A character; `asByte` if it was written as a byte value. -/
  | character (c : Char) (asByte : Bool)
  | set (s : CharSet)
  | assert (a : Assertion)

/-- The characters that a backslash deprives of their meaning: all of ASCII that is neither a letter
nor a digit nor an angle bracket. -/
def isEscapable (c : Char) : Bool :=
  c.toNat < 0x80 && !c.isAlphanum && c != '<' && c != '>'

/-- Reads a name up to a closing brace; the text's length bounds the rounds. -/
def readName (f : Flags) : Nat → Text → Option (Text × Text)
  | 0, _ => none
  | _ + 1, [] => none
  | fuel + 1, c :: rest =>
    if c = '\x7d' then some ([], rest)
    else (readName f fuel (f.skip rest)).map fun (name, left) => (c :: name, left)

/-- Reads the property after `\p` or `\P`: one letter, or a query in braces. -/
def readProperty (f : Flags) (negated : Bool) (t : Text) : Option (Escaped × Text) := do
  let ((query, queryNegated), rest) ← match f.skip t with
    | '\x7b' :: rest => do
      let (name, rest) ← readName f t.length (f.skip rest)
      some (PropertyQuery.ofText name, rest)
    | c :: rest => some ((.named [c], false), rest)
    | [] => none
  if f.unicode then
    let s ← query.chars?
    let s ← f.close? (negated != queryNegated) s
    some (.set s, rest)
  else none

/-- Whether a character may stand in the name of a word test. -/
def isTestLetter (c : Char) : Bool := c.isAlpha || c == '-'

/-- Reads what may follow `\b`: the name of a word test in braces. A brace before anything but a
name is left to be read as a count. -/
def readWordTest (f : Flags) (t : Text) : Option (WordTest × Text) :=
  match t with
  | '\x7b' :: rest =>
    match f.skip rest with
    | [] => none
    | c :: rest =>
      if !isTestLetter c then some (.boundary, t)
      else
        match readName f t.length (c :: rest) with
        | none => none
        | some (name, left) =>
          match String.ofList name with
          | "start" => some (.start, left)
          | "end" => some (.finish, left)
          | "start-half" => some (.startHalf, left)
          | "end-half" => some (.finishHalf, left)
          | _ => none
  | _ => some (.boundary, t)

/-- Reads what follows a backslash. -/
def readEscape (f : Flags) : Text → Option (Escaped × Text)
  | [] => none
  | c :: rest =>
    let plain (c : Char) : Option (Escaped × Text) := some (.character c false, rest)
    let test (w : WordTest) : Option (Escaped × Text) := some (.assert (f.wordTest w), rest)
    match c with
    | 'x' => (readHex f 2 rest).map fun (c, left) =>
        (.character c (match f.skip rest with | '\x7b' :: _ => false | _ => true), left)
    | 'u' => (readHex f 4 rest).map fun (c, left) => (.character c false, left)
    | 'U' => (readHex f 8 rest).map fun (c, left) => (.character c false, left)
    | 'p' => readProperty f false rest
    | 'P' => readProperty f true rest
    | 'd' | 's' | 'w' => (f.shorthand? c).map (.set ·, rest)
    | 'D' | 'S' | 'W' => do
      let s ← f.shorthand? c.toLower
      let s ← f.negateIf? true s
      some (.set s, rest)
    | 'a' => plain '\x07'
    | 'f' => plain '\x0c'
    | 't' => plain '\t'
    | 'n' => plain '\n'
    | 'r' => plain '\r'
    | 'v' => plain '\x0b'
    | 'A' => some (.assert .textStart, rest)
    | 'z' => some (.assert .textEnd, rest)
    | 'b' => (readWordTest f rest).map fun (w, left) => (.assert (f.wordTest w), left)
    | 'B' => test .interior
    | '<' => test .start
    | '>' => test .finish
    | c => if isEscapable c then plain c else none

end Thicket.Pattern
