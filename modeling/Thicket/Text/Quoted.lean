import Thicket.Text.Basic
import Thicket.Unicode.Extender
import Thicket.Unicode.Unprintable

/-!
# Quoted text

A quoted text stands between double quotes. Quotes, backslashes and the common controls have an
escape of two characters; any other character that would not show on its own is written as its code
point in hexadecimal. What is left stands for itself, single quotes included.
-/

namespace Thicket.Text

/-- The written form of a character inside quotes. -/
def quoteChar (c : Char) : Text :=
  match c with
  | '"' => ['\\', '"']
  | '\\' => ['\\', '\\']
  | '\n' => ['\\', 'n']
  | '\r' => ['\\', 'r']
  | '\t' => ['\\', 't']
  | '\x00' => ['\\', '0']
  | c =>
    if Unicode.extender.contains c || Unicode.unprintable.contains c then
      ['\\', 'u', '\x7b'] ++ Nat.toDigits 16 c.toNat ++ ['\x7d']
    else [c]

/-- The text between double quotes, with escapes. -/
def quoted (t : Text) : Text := '"' :: t.flatMap quoteChar ++ ['"']

end Thicket.Text
