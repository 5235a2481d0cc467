/-!
# UTF-8 with replacement

Texts as lists of bytes.  Every list of bytes decodes: each maximal part that
begins a well-formed sequence without completing it becomes one replacement
character U+FFFD, and so does each byte that begins none.

`decode_encode` says that decoding takes encoding back.
-/

namespace QuerySync.Text.Utf8

/-- The bytes of a list of characters. -/
def encode (chars : List Char) : List UInt8 := chars.flatMap String.utf8EncodeChar

/-- The character that the bytes begin with, if they begin with a well-formed sequence.
No sequence is longer than four bytes. -/
def decodeChar? (bytes : List UInt8) : Option Char :=
  (bytes.take 4).toByteArray.utf8DecodeChar? 0

/-- Whether a byte continues a sequence. -/
def isContinuation (byte : UInt8) : Bool := 0x80 ≤ byte && byte ≤ 0xBF

/-- Whether `second` may follow the first byte of a sequence of three or four bytes.
The bounds leave out overlong forms, surrogates and what lies beyond U+10FFFF. -/
def mayFollow (first second : UInt8) : Bool :=
  if first = 0xE0 then 0xA0 ≤ second && second ≤ 0xBF
  else if first = 0xED then 0x80 ≤ second && second ≤ 0x9F
  else if first = 0xF0 then 0x90 ≤ second && second ≤ 0xBF
  else if first = 0xF4 then 0x80 ≤ second && second ≤ 0x8F
  else 0xE1 ≤ first && first ≤ 0xF3 && isContinuation second

/-- How many bytes after the first belong to a sequence that is never completed. -/
def brokenTail (first : UInt8) : List UInt8 → Nat
  | [] => 0
  | [second] => if mayFollow first second then 1 else 0
  | second :: third :: _ =>
    if mayFollow first second then
      if 0xF0 ≤ first && isContinuation third then 2 else 1
    else 0

/-- The text of a list of bytes, with U+FFFD for what is not well formed. -/
def decode : List UInt8 → List Char
  | [] => []
  | first :: rest =>
    match decodeChar? (first :: rest) with
    | some c => c :: decode ((first :: rest).drop c.utf8Size)
    | none => '\uFFFD' :: decode (rest.drop (brokenTail first rest))
termination_by bytes => bytes.length
decreasing_by
  · have := c.utf8Size_pos
    simp only [List.length_drop, List.length_cons]
    omega
  · simp only [List.length_drop, List.length_cons]
    omega

/-! ## Decoding takes encoding back -/

theorem length_utf8EncodeChar_le (c : Char) : (String.utf8EncodeChar c).length ≤ 4 := by
  rw [String.length_utf8EncodeChar]
  exact c.utf8Size_le_four

/-- The bytes of a character are read as it, whatever follows. -/
theorem decodeChar?_append (c : Char) (rest : List UInt8) :
    decodeChar? (String.utf8EncodeChar c ++ rest) = some c := by
  rw [decodeChar?, List.take_append, List.take_of_length_le (length_utf8EncodeChar_le c),
    List.toByteArray_append]
  exact ByteArray.utf8DecodeChar?_utf8EncodeChar_append

/-- Reading goes on after the bytes of a character. -/
theorem decode_append (c : Char) (rest : List UInt8) :
    decode (String.utf8EncodeChar c ++ rest) = c :: decode rest := by
  cases bytes : String.utf8EncodeChar c ++ rest with
  | nil =>
    have := c.utf8Size_pos
    have := congrArg List.length bytes
    simp only [List.length_append, String.length_utf8EncodeChar, List.length_nil] at this
    omega
  | cons first tail =>
    have found := decodeChar?_append c rest
    rw [bytes] at found
    rw [decode, found, ← bytes]
    simp only
    rw [← String.length_utf8EncodeChar, List.drop_left]

/-- A text is read back from its bytes. -/
theorem decode_encode (chars : List Char) : decode (encode chars) = chars := by
  induction chars with
  | nil => simp [encode, decode]
  | cons c rest induction =>
    rw [encode, List.flatMap_cons, decode_append]
    exact congrArg (c :: ·) induction

end QuerySync.Text.Utf8
