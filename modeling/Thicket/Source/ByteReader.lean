import Thicket.Fault
import Thicket.Text.Utf8

/-!
# Reading bytes line by line

A byte reader asks a device for bytes. Each answer of the device is a chunk of bytes or a failure; an
empty chunk says that there is nothing now, and after the last answer there is nothing ever. What a
chunk holds beyond the current line is kept for the next one.

`readLine` reads up to and including the next line feed, or up to the end or a failure. Interrupted
reads are tried again. A line that is not UTF-8 is lost; a line cut short by a failure is kept as far
as it has come, if that is UTF-8.
-/

namespace Thicket

/-- An answer of the device. -/
inductive Arrival where
  | bytes (chunk : List UInt8)
  | failure (kind : InputKind)

/-- Bytes that have arrived and have not been read, and the answers that are to come. -/
structure ByteReader where
  buffered : List UInt8
  arrivals : List Arrival

/-- The bytes of a line as far as they could be read, and what stopped it early. -/
structure RawLine where
  bytes : List UInt8
  failure : Option InputKind
  reader : ByteReader

/-- The text of a line, what went wrong with it, and the reader after it. -/
structure Line where
  text : Text
  failure : Option InputFailure
  reader : ByteReader

namespace ByteReader

/-- A reader of bytes that are all there. -/
def ofBytes (bytes : List UInt8) : ByteReader := ⟨bytes, []⟩

/-- The bytes that have not been read. -/
def rest (r : ByteReader) : List UInt8 :=
  r.buffered ++ r.arrivals.flatMap fun
    | .bytes chunk => chunk
    | .failure _ => []

/-- The byte that ends a line. -/
def lineFeed : UInt8 := 0x0A

/-- The bytes up to and including the first line feed, and what follows it; all bytes if there is
none. -/
def cutLine : List UInt8 → List UInt8 × Option (List UInt8)
  | [] => ([], none)
  | b :: more =>
    if b = lineFeed then ([b], some more)
    else
      let (front, back) := cutLine more
      (b :: front, back)

/-- Reads on after the bytes `got` of a line. -/
def collect (got buffered : List UInt8) : List Arrival → RawLine
  | [] =>
    let (front, back) := cutLine buffered
    ⟨got ++ front, none, ⟨back.getD [], []⟩⟩
  | arrival :: later =>
    match cutLine buffered, arrival with
    | (front, some back), arrival => ⟨got ++ front, none, ⟨back, arrival :: later⟩⟩
    | (front, none), .bytes [] => ⟨got ++ front, none, ⟨[], later⟩⟩
    | (front, none), .bytes chunk => collect (got ++ front) chunk later
    | (front, none), .failure .interrupted => collect (got ++ front) [] later
    | (front, none), .failure kind => ⟨got ++ front, some kind, ⟨[], later⟩⟩

/-- Reads the bytes of the next line; none at the end of the input. -/
def readRawLine (r : ByteReader) : RawLine := collect [] r.buffered r.arrivals

/-- Reads the text of the next line; none at the end of the input. -/
def readLine (r : ByteReader) : Line :=
  let raw := r.readRawLine
  match Text.decode? raw.bytes, raw.failure with
  | some text, none => ⟨text, none, raw.reader⟩
  | some text, some kind => ⟨text, some ⟨kind, none⟩, raw.reader⟩
  | none, none => ⟨[], some .notUtf8, raw.reader⟩
  | none, some kind => ⟨[], some ⟨kind, none⟩, raw.reader⟩

/-! ## Reading uses bytes up -/

theorem length_cutLine (bytes : List UInt8) :
    (cutLine bytes).1.length + ((cutLine bytes).2.getD []).length = bytes.length := by
  induction bytes with
  | nil => rfl
  | cons b more ih =>
    unfold cutLine
    split
    · simp [Nat.add_comm]
    · simp only [List.length_cons]
      omega

theorem length_collect (got buffered : List UInt8) (arrivals : List Arrival) :
    (collect got buffered arrivals).bytes.length + (collect got buffered arrivals).reader.rest.length
      = got.length + buffered.length + (ByteReader.rest ⟨[], arrivals⟩).length := by
  induction arrivals generalizing got buffered with
  | nil =>
    have hcut := length_cutLine buffered
    simp only [collect, rest, List.length_append, List.flatMap_nil, List.length_nil]
    omega
  | cons arrival later ih =>
    have hcut := length_cutLine buffered
    unfold collect
    split <;> rename_i heq <;> rw [heq] at hcut <;>
      simp only [Option.getD_some, Option.getD_none, List.length_nil] at hcut
    · simp only [rest, List.length_append]
      simp
      omega
    · simp [rest]
      omega
    · rw [ih]
      simp [rest]
      omega
    · rw [ih]
      simp [rest]
      omega
    · simp [rest]
      omega

/-- The text of a line is no longer than the bytes it was read from. -/
theorem length_text_readLine (r : ByteReader) :
    r.readLine.text.length ≤ r.readRawLine.bytes.length := by
  unfold readLine
  cases hdecode : Text.decode? r.readRawLine.bytes with
  | none => cases hfailure : r.readRawLine.failure <;> simp [hdecode, hfailure]
  | some text =>
    have hlen : text.length ≤ r.readRawLine.bytes.length := by
      rw [Text.eq_encode_of_decode? hdecode]
      exact Text.length_le_length_encode text
    cases hfailure : r.readRawLine.failure <;> simpa [hdecode, hfailure] using hlen

theorem reader_readLine (r : ByteReader) : r.readLine.reader = r.readRawLine.reader := by
  unfold readLine
  cases hdecode : Text.decode? r.readRawLine.bytes <;>
    cases hfailure : r.readRawLine.failure <;> simp [hdecode, hfailure]

/-- A line holds no more characters than reading it has used up bytes. -/
theorem length_readLine (r : ByteReader) :
    r.readLine.text.length + r.readLine.reader.rest.length ≤ r.rest.length := by
  have hraw := length_collect [] r.buffered r.arrivals
  have htext := length_text_readLine r
  rw [reader_readLine]
  simp only [readRawLine] at *
  simp [rest] at *
  omega

end ByteReader

end Thicket
