import Thicket.Pattern.Flags
import Thicket.Unicode.Upper
import Thicket.Unicode.Lower
import Thicket.Unicode.Greek

/-!
# Properties of characters by name

A property is named by itself, or as the value of an enumeration: a general category, the script, or
the scripts. Case, blanks, underscores, hyphens and a leading `is` do not count in names.
-/

namespace Thicket.Pattern

/-! ## Names -/

/-- What a written property asks for. -/
inductive PropertyQuery where
  | named (name : Text)
  | valued (enumeration value : Text)

/-- Cuts a text around the first place where a mark stands. -/
def cutAround? (mark : Text) : Text → Option (Text × Text)
  | [] => none
  | c :: rest =>
    if mark.isPrefixOf (c :: rest) then some ([], (c :: rest).drop mark.length)
    else (cutAround? mark rest).map fun (before, after) => (c :: before, after)

/-- The query that is written between the braces of a property, and whether it is negated there. -/
def PropertyQuery.ofText (t : Text) : PropertyQuery × Bool :=
  match cutAround? ['!', '='] t with
  | some (name, value) => (.valued name value, true)
  | none =>
    match cutAround? [':'] t <|> cutAround? ['='] t with
    | some (name, value) => (.valued name value, false)
    | none => (.named t, false)

/-- A name without the differences that do not count. -/
def plainName (name : Text) : String :=
  let name := match name with
    | i :: s :: rest => if i.toLower = 'i' ∧ s.toLower = 's' then rest else name
    | name => name
  let counts (c : Char) : Bool := c.toNat < 0x80 && c != ' ' && c != '_' && c != '-'
  String.ofList ((name.filter counts).map Char.toLower)

/-! ## Sets -/

/-- The characters of a general category. -/
def categoryOf? : String → Option CharSet
  | "lu" | "uppercaseletter" => some Unicode.upper
  | "ll" | "lowercaseletter" => some Unicode.lower
  | "nd" | "decimalnumber" | "digit" => some Unicode.digit
  | "any" => some .all
  | "ascii" => some Flags.ascii
  | _ => none

/-- The characters of a script. -/
def scriptOf? : String → Option CharSet
  | "greek" | "grek" => some Unicode.greek
  | _ => none

/-- The characters that have a script among theirs. -/
def scriptsOf? : String → Option CharSet
  | "greek" | "grek" => some Unicode.greekShared
  | _ => none

/-- The characters with a property that is named by itself. -/
def propertyOf? (name : String) : Option CharSet :=
  match name with
  | "whitespace" | "wspace" | "space" => some Unicode.blank
  | name => categoryOf? name <|> scriptOf? name

/-- The characters that a query asks for; none if there is no such property. -/
def PropertyQuery.chars? : PropertyQuery → Option CharSet
  | .named name => propertyOf? (plainName name)
  | .valued enumeration value =>
    match plainName enumeration with
    | "generalcategory" | "gc" => categoryOf? (plainName value)
    | "script" | "sc" => scriptOf? (plainName value)
    | "scriptextensions" | "scx" => scriptsOf? (plainName value)
    | _ => none

end Thicket.Pattern
