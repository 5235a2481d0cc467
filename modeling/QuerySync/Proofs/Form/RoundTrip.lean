import QuerySync.Form.Pairs

/-!
# Forms are read back

Reading a form takes writing it back (`read_write`), whatever characters the names and values
have.  There are two halves to it.

A component is read back byte by byte (`decode_encode`).  Reading turns plus signs into spaces
before it resolves escapes, so it matters that a plus sign is never written as it is: one that is
found was written for a space.

The pairs are found again since what is written of a component has neither an ampersand nor an
equals sign in it (`isSafe_of_mem_encode`).  Nor does it have a question mark, so a form never
begins with one.  Every pair is written with an equals sign, so none is empty, also if its name
and its value are.
-/

namespace QuerySync.Form

/-! ## Components -/

/-- Whether a byte can be written for a component. -/
def isSafe (byte : UInt8) : Bool := isPlain byte || byte == plus || byte == percent

/-- There are sixteen hexadecimal digits. -/
theorem exists_eq_ofNat {n : UInt8} (small : n < 16) : ∃ k : Fin 16, n = .ofNat k :=
  ⟨⟨n.toNat, UInt8.lt_iff_toNat_lt.1 small⟩, UInt8.ofNat_toNat.symm⟩

/-- A digit that is written is read back. -/
theorem hexValue?_hexDigit {n : UInt8} (small : n < 16) : hexValue? (hexDigit n) = some n := by
  have digits : ∀ k : Fin 16, hexValue? (hexDigit (.ofNat k)) = some (.ofNat k) := by decide
  obtain ⟨k, rfl⟩ := exists_eq_ofNat small
  exact digits k

theorem isPlain_hexDigit {n : UInt8} (small : n < 16) : isPlain (hexDigit n) = true := by
  have digits : ∀ k : Fin 16, isPlain (hexDigit (.ofNat k)) = true := by decide
  obtain ⟨k, rfl⟩ := exists_eq_ofNat small
  exact digits k

theorem high_lt (byte : UInt8) : byte / 16 < 16 := by grind

theorem low_lt (byte : UInt8) : byte % 16 < 16 := by grind

/-- A byte that is written as it is differs from one that is not. -/
theorem ne_of_isPlain {byte other : UInt8} (plain : isPlain byte = true)
    (notPlain : isPlain other = false) : byte ≠ other := by
  rintro rfl
  exact Bool.eq_false_iff.1 notPlain plain

/-- Everything that is written for a byte is safe. -/
theorem isSafe_of_mem_encodeByte {byte written : UInt8} (member : written ∈ encodeByte byte) :
    isSafe written = true := by
  have plainIsSafe {safe : UInt8} (plain : isPlain safe = true) : isSafe safe = true := by
    rw [isSafe, plain]
    rfl
  unfold encodeByte at member
  split at member
  next =>
    rw [List.mem_singleton.1 member]
    decide
  next =>
    split at member
    next plain =>
      rw [List.mem_singleton.1 member]
      exact plainIsSafe plain
    next =>
      rcases List.mem_cons.1 member with rfl | member
      · decide
      rcases List.mem_cons.1 member with rfl | member
      · exact plainIsSafe (isPlain_hexDigit (high_lt byte))
      · rw [List.mem_singleton.1 member]
        exact plainIsSafe (isPlain_hexDigit (low_lt byte))

/-- A component is written with plain bytes, escapes and the sign for a space. -/
theorem isSafe_of_mem_encode {bytes : List UInt8} {written : UInt8}
    (member : written ∈ encode bytes) : isSafe written = true := by
  obtain ⟨byte, -, member⟩ := List.mem_flatMap.1 member
  exact isSafe_of_mem_encodeByte member

theorem equals_not_mem_encode (bytes : List UInt8) : equals ∉ encode bytes :=
  fun member => absurd (isSafe_of_mem_encode member) (by decide)

/-! ## Components are read back -/

/-- Only a percent sign begins an escape. -/
theorem unescape_cons_of_ne {byte : UInt8} (different : byte ≠ percent) (rest : List UInt8) :
    unescape (byte :: rest) = byte :: unescape rest := by
  rw [unescape, if_neg different]

/-- An escape is resolved. -/
theorem unescape_escape (byte : UInt8) (rest : List UInt8) :
    unescape (percent :: hexDigit (byte / 16) :: hexDigit (byte % 16) :: rest) =
      byte :: unescape rest := by
  have value : escaped? (hexDigit (byte / 16) :: hexDigit (byte % 16) :: rest) = some byte := by
    have whole : 16 * (byte / 16) + byte % 16 = byte := by grind
    simp only [escaped?, hexValue?_hexDigit (high_lt byte), hexValue?_hexDigit (low_lt byte)]
    exact congrArg some whole
  rw [unescape, if_pos rfl, value]
  rfl

/-- What is written for a byte is read as that byte, whatever comes after it. -/
theorem decode_encodeByte_append (byte : UInt8) (rest : List UInt8) :
    decode (encodeByte byte ++ rest) = byte :: decode rest := by
  unfold decode encodeByte
  split
  next isSpace =>
    rw [List.singleton_append, List.map_cons, if_pos rfl, isSpace]
    exact unescape_cons_of_ne (by decide) _
  next =>
    split
    next plain =>
      rw [List.singleton_append, List.map_cons, if_neg (ne_of_isPlain plain (by decide))]
      exact unescape_cons_of_ne (ne_of_isPlain plain (by decide)) _
    next =>
      -- neither the percent sign nor a digit is a plus sign
      have high : hexDigit (byte / 16) ≠ plus :=
        ne_of_isPlain (isPlain_hexDigit (high_lt byte)) (by decide)
      have low : hexDigit (byte % 16) ≠ plus :=
        ne_of_isPlain (isPlain_hexDigit (low_lt byte)) (by decide)
      simp only [List.cons_append, List.nil_append, List.map_cons, if_neg high, if_neg low]
      exact unescape_escape byte _

/-- A component is read back, byte by byte. -/
theorem decode_encode (bytes : List UInt8) : decode (encode bytes) = bytes := by
  induction bytes with
  | nil => exact unescape.eq_1
  | cons byte rest induction =>
    rw [encode, List.flatMap_cons, decode_encodeByte_append]
    exact congrArg (byte :: ·) induction

/-- The text of a component is read back. -/
theorem componentText_textComponent (text : String) :
    componentText (textComponent text) = text := by
  rw [componentText, textComponent, decode_encode, Text.Utf8.decode_encode, String.ofList_toList]

/-! ## Pairs are read back -/

theorem takeWhile_append_cons {bytes rest : List UInt8} {stop : UInt8} (absent : stop ∉ bytes) :
    (bytes ++ stop :: rest).takeWhile (· != stop) = bytes := by
  have others : ∀ byte ∈ bytes, (byte != stop) = true := fun byte member =>
    bne_iff_ne.2 fun same => absent (same ▸ member)
  rw [List.takeWhile_append_of_pos others, List.takeWhile_cons_of_neg (by simp), List.append_nil]

theorem dropWhile_append_cons {bytes rest : List UInt8} {stop : UInt8} (absent : stop ∉ bytes) :
    (bytes ++ stop :: rest).dropWhile (· != stop) = stop :: rest := by
  have others : ∀ byte ∈ bytes, (byte != stop) = true := fun byte member =>
    bne_iff_ne.2 fun same => absent (same ▸ member)
  rw [List.dropWhile_append_of_pos others, List.dropWhile_cons_of_neg (by simp)]

/-- The first equals sign ends the name: neither part has one of its own. -/
theorem readPair_writePair (pair : String × String) : readPair (writePair pair) = pair := by
  have absent : equals ∉ textComponent pair.1 := equals_not_mem_encode _
  rw [readPair, writePair, takeWhile_append_cons absent, dropWhile_append_cons absent,
    List.drop_one, List.tail_cons, componentText_textComponent, componentText_textComponent]

/-- Nothing is written between the ampersands of a form but safe bytes and equals signs. -/
theorem isSafe_of_mem_writePair {pair : String × String} {byte : UInt8}
    (member : byte ∈ writePair pair) : isSafe byte = true ∨ byte = equals := by
  rcases List.mem_append.1 member with name | rest
  · exact .inl (isSafe_of_mem_encode name)
  · rcases List.mem_cons.1 rest with isEquals | value
    · exact .inr isEquals
    · exact .inl (isSafe_of_mem_encode value)

theorem ampersand_not_mem_writePair (pair : String × String) : ampersand ∉ writePair pair := by
  intro member
  rcases isSafe_of_mem_writePair member with safe | isEquals
  · exact absurd safe (by decide)
  · exact absurd isEquals (by decide)

theorem writePair_ne_nil (pair : String × String) : writePair pair ≠ [] :=
  List.append_ne_nil_of_right_ne_nil _ (List.cons_ne_nil _ _)

/-! ## Forms are read back -/

/-- The bytes of a form. -/
def bytes (pairs : List (String × String)) : List UInt8 :=
  [ampersand].intercalate (pairs.map writePair)

/-- Whether a byte can be written for a form. -/
def isFormByte (byte : UInt8) : Bool := isSafe byte || byte == equals || byte == ampersand

/-- A form is written with safe bytes and the two that separate. -/
theorem isFormByte_of_mem_bytes {pairs : List (String × String)} {byte : UInt8}
    (member : byte ∈ bytes pairs) : isFormByte byte = true := by
  have ofPair {pair : String × String} (member : byte ∈ writePair pair) :
      isFormByte byte = true := by
    rcases isSafe_of_mem_writePair member with safe | rfl
    · rw [isFormByte, safe]
      rfl
    · decide
  unfold bytes at member
  induction pairs with
  | nil => exact absurd member List.not_mem_nil
  | cons pair others induction =>
    cases others with
    | nil => exact ofPair (by simpa using member)
    | cons next others =>
      rw [List.map_cons, List.map_cons, List.intercalate_cons_cons] at member
      rcases List.mem_append.1 member with first | later
      · rcases List.mem_append.1 first with inPair | separator
        · exact ofPair inPair
        · rw [List.mem_singleton.1 separator]
          decide
      · exact induction later

theorem lt_of_isPlain {byte : UInt8} (plain : isPlain byte = true) : byte < 0x80 := by
  unfold isPlain at plain
  grind

theorem lt_of_isFormByte {byte : UInt8} (written : isFormByte byte = true) : byte < 0x80 := by
  simp only [isFormByte, isSafe, Bool.or_eq_true, beq_iff_eq] at written
  rcases written with (((plain | rfl) | rfl) | rfl) | rfl
  · exact lt_of_isPlain plain
  all_goals decide

/-- An ASCII character is one byte. -/
theorem utf8EncodeChar_ofNat {byte : UInt8} (ascii : byte < 0x80) :
    String.utf8EncodeChar (Char.ofNat byte.toNat) = [byte] := by
  have small : byte.toNat < 128 := UInt8.lt_iff_toNat_lt.1 ascii
  have valid : byte.toNat.isValidChar := .inl (by omega)
  have value : (Char.ofNat byte.toNat).val = byte.toUInt32 := by
    rw [Char.ofNat, dif_pos valid]
    rfl
  have single : (Char.ofNat byte.toNat).utf8Size = 1 := by
    rw [Char.utf8Size_eq_one_iff, value, UInt32.le_iff_toNat_le, UInt8.toNat_toUInt32]
    exact Nat.le_of_lt_succ small
  rw [String.utf8EncodeChar_eq_singleton single, value, UInt8.toUInt8_toUInt32]

/-- Bytes of ASCII are their own UTF-8. -/
theorem encode_map_ofNat {bytes : List UInt8} (ascii : ∀ byte ∈ bytes, byte < 0x80) :
    Text.Utf8.encode (bytes.map fun byte => .ofNat byte.toNat) = bytes := by
  induction bytes with
  | nil => rfl
  | cons byte rest induction =>
    obtain ⟨first, others⟩ := List.forall_mem_cons.1 ascii
    rw [List.map_cons, Text.Utf8.encode, List.flatMap_cons, utf8EncodeChar_ofNat first]
    exact congrArg (byte :: ·) (induction others)

theorem toList_write (pairs : List (String × String)) :
    (write pairs).toList = (bytes pairs).map fun byte => .ofNat byte.toNat :=
  String.toList_ofList

/-- The bytes of the text of a form are those that were written. -/
theorem encode_toList_write (pairs : List (String × String)) :
    Text.Utf8.encode (write pairs).toList = bytes pairs := by
  rw [toList_write]
  exact encode_map_ofNat fun byte member => lt_of_isFormByte (isFormByte_of_mem_bytes member)

/-- The pairs are found again between the ampersands.  A form without pairs is one empty sequence,
which is skipped. -/
theorem filter_splitOn_bytes (pairs : List (String × String)) :
    ((bytes pairs).splitOn ampersand).filter (· ≠ []) = pairs.map writePair := by
  cases pairs with
  | nil => decide
  | cons pair others =>
    have absent : ∀ sequence ∈ (pair :: others).map writePair, ampersand ∉ sequence := by
      intro sequence member
      obtain ⟨written, -, rfl⟩ := List.mem_map.1 member
      exact ampersand_not_mem_writePair written
    rw [bytes, List.splitOn_intercalate ampersand absent (List.cons_ne_nil _ _)]
    refine List.filter_eq_self.2 fun sequence member => decide_eq_true ?_
    obtain ⟨written, -, rfl⟩ := List.mem_map.1 member
    exact writePair_ne_nil written

/-- Pairs that are written are read back in their order, repeated names and empty texts with them.
-/
theorem read_write (pairs : List (String × String)) : read (write pairs) = pairs := by
  have inverse : readPair ∘ writePair = id := funext readPair_writePair
  rw [read, encode_toList_write, filter_splitOn_bytes, List.map_map, inverse, List.map_id]

/-- A form does not begin with a question mark. -/
theorem head?_write_ne (pairs : List (String × String)) :
    (write pairs).toList.head? ≠ some '?' := by
  rw [toList_write, List.head?_map]
  intro isMark
  obtain ⟨byte, first, mark⟩ := Option.map_eq_some_iff.1 isMark
  have written := isFormByte_of_mem_bytes (List.mem_of_head? first)
  have ascii := utf8EncodeChar_ofNat (lt_of_isFormByte written)
  rw [mark] at ascii
  have isByte : byte = 0x3F := (List.singleton_inj.1 ascii).symm
  rw [isByte] at written
  exact absurd written (by decide)

end QuerySync.Form
