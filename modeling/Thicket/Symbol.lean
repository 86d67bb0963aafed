import Thicket.Text.Quoted

/-!
# Symbols

A symbol is an id and the text that it stands for. Terminals carry the text that was matched,
nonterminals carry their id in decimal. Both share one space of ids, in which zero is kept for text
that has not been resolved.
-/

namespace Thicket

/-- The id of a terminal or nonterminal. -/
abbrev SymbolId := Nat

namespace SymbolId

/-- The id of text that has not been resolved. -/
def unresolved : SymbolId := 0

def isUnresolved (id : SymbolId) : Bool := id = unresolved

/-- The id in decimal. -/
def text (id : SymbolId) : Text := Text.decimal id

/-- The id in decimal, with a character repeated before it up to a width. -/
def padLeft (width : Nat) (fill : Char) (id : SymbolId) : Text :=
  List.replicate (width - id.text.length) fill ++ id.text

/-- The id in decimal, with a character repeated after it up to a width. -/
def padRight (width : Nat) (fill : Char) (id : SymbolId) : Text :=
  id.text ++ List.replicate (width - id.text.length) fill

end SymbolId

/-- A recognised token: an id and its text. -/
structure Symbol where
  id : SymbolId
  text : Text
deriving DecidableEq, Repr

namespace Symbol

/-- The symbol of a nonterminal, whose text is its id in decimal. -/
def nonterminal (id : SymbolId) : Symbol := ⟨id, id.text⟩

/-- The id, a colon and the quoted text. -/
def display (s : Symbol) : Text := s.id.text ++ ':' :: s.text.quoted

end Symbol

end Thicket
