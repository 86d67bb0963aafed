/-!
# Text and byte offsets

A text is a list of characters. Positions reported by a search are byte offsets: the number of bytes
that the characters before the position take in UTF-8. `splitBytes` cuts a text at such an offset and
`cut?` takes a byte range out of it. Nothing is lost by cutting: the parts of `splitBytes` and of
`cut?` put together give the text back.
-/

namespace Thicket

/-- A finite sequence of characters. -/
abbrev Text := List Char

namespace Text

/-- The number of bytes a text takes in UTF-8. -/
def byteSize : Text → Nat
  | [] => 0
  | c :: rest => c.utf8Size + byteSize rest

/-- The characters that begin before byte `n`, and the others. -/
def splitBytes (n : Nat) : Text → Text × Text
  | [] => ([], [])
  | c :: rest =>
    if n = 0 then ([], c :: rest)
    else
      let (front, back) := splitBytes (n - c.utf8Size) rest
      (c :: front, back)

theorem splitBytes_append (n : Nat) (t : Text) :
    (splitBytes n t).1 ++ (splitBytes n t).2 = t := by
  induction t generalizing n with
  | nil => rfl
  | cons c rest ih =>
    unfold splitBytes
    split
    · rfl
    · simp [ih]

/-- A text cut around a part that holds at least one character. -/
structure Cut where
  before : Text
  part : Text
  after : Text
  part_ne_nil : part ≠ []

/-- The text in the bytes from `start` to `stop`, with what stands before and after it; nothing if
no character begins in that range. -/
def cut? (start stop : Nat) (t : Text) : Option Cut :=
  let (before, rest) := splitBytes start t
  let (part, after) := splitBytes (stop - start) rest
  if h : part = [] then none else some ⟨before, part, after, h⟩

theorem cut?_append {start stop : Nat} {t : Text} {c : Cut} (h : cut? start stop t = some c) :
    c.before ++ c.part ++ c.after = t := by
  simp only [cut?] at h
  split at h
  · cases h
  · cases h
    simp [splitBytes_append]

/-- A cut takes at least one character out of the text. -/
theorem cut?_length_lt {start stop : Nat} {t : Text} {c : Cut} (h : cut? start stop t = some c) :
    c.before.length + c.after.length < t.length := by
  have hlen := congrArg List.length (cut?_append h)
  have := List.length_pos_iff.2 c.part_ne_nil
  simp only [List.length_append] at hlen
  omega

/-- The decimal digits of a number. -/
def decimal (n : Nat) : Text := Nat.toDigits 10 n

end Text

end Thicket
