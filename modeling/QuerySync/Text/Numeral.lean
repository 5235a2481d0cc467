/-!
# Unsigned decimal numerals

Reading a numeral accepts one leading plus sign, then one or more of the digits
`0` to `9`.  Leading zeros are digits like the others.  A value at or above the
limit has no reading, and neither has a text with any other character in it, a
minus sign and blanks included.

Writing uses `toString`, and `read?_toString` says that reading takes it back.
`Spells` says which texts are numerals, and `read?_eq_some_iff` that these are the
ones that have a reading.
-/

namespace QuerySync.Text.Numeral

/-- The value of a nonempty list of decimal digits. -/
def ofDigits? (chars : List Char) : Option Nat :=
  if chars ≠ [] ∧ chars.all Char.isDigit then some (Nat.ofDigitChars 10 chars 0) else none

/-- Drops one leading plus sign. -/
def dropPlus : List Char → List Char
  | '+' :: rest => rest
  | chars => chars

/-- The value of a numeral, if it lies below the limit. -/
def read? (limit : Nat) (text : String) : Option Nat :=
  (ofDigits? (dropPlus text.toList)).filter (· < limit)

/-- The value of a numeral of at most thirty-two bits. -/
def readUInt32? (text : String) : Option UInt32 :=
  (read? UInt32.size text).map UInt32.ofNat

/-- The value of a numeral of at most sixty-four bits. -/
def readUInt64? (text : String) : Option UInt64 :=
  (read? UInt64.size text).map UInt64.ofNat

/-- A text is a numeral of a number: decimal digits, at least one, with one plus sign in front
or none. -/
def Spells (text : String) (n : Nat) : Prop :=
  ∃ digits : List Char, digits ≠ [] ∧ (∀ c ∈ digits, c.isDigit = true) ∧
    (text.toList = digits ∨ text.toList = '+' :: digits) ∧ Nat.ofDigitChars 10 digits 0 = n

/-- A number is read back from its digits. -/
theorem ofDigits?_toDigits (n : Nat) : ofDigits? (Nat.toDigits 10 n) = some n := by
  have digits : (Nat.toDigits 10 n).all Char.isDigit = true :=
    List.all_eq_true.2 fun _ member => Nat.isDigit_of_mem_toDigits (by decide) (by decide) member
  simp [ofDigits?, digits, Nat.toDigits_ne_nil, Nat.ofDigitChars_ten_toDigits]

/-- A list whose head is a digit has no plus sign to drop. -/
theorem dropPlus_of_all_isDigit {chars : List Char} (digits : chars.all Char.isDigit = true) :
    dropPlus chars = chars := by
  unfold dropPlus
  split
  · simp at digits
  · rfl

/-- What digits are read as. -/
theorem ofDigits?_eq_some_iff {chars : List Char} {n : Nat} :
    ofDigits? chars = some n ↔
      chars ≠ [] ∧ (∀ c ∈ chars, c.isDigit = true) ∧ Nat.ofDigitChars 10 chars 0 = n := by
  rw [ofDigits?, Option.ite_none_right_eq_some, List.all_eq_true, and_assoc, Option.some_inj]

/-- What is dropped is one plus sign, or nothing. -/
theorem eq_dropPlus_or (chars : List Char) :
    chars = dropPlus chars ∨ chars = '+' :: dropPlus chars := by
  unfold dropPlus
  split
  · exact .inr rfl
  · exact .inl rfl

theorem ofDigits?_dropPlus_eq_some_iff {text : String} {n : Nat} :
    ofDigits? (dropPlus text.toList) = some n ↔ Spells text n := by
  rw [ofDigits?_eq_some_iff]
  constructor
  · rintro ⟨nonempty, digits, value⟩
    exact ⟨dropPlus text.toList, nonempty, digits, eq_dropPlus_or text.toList, value⟩
  · rintro ⟨chars, nonempty, digits, unsigned | signed, value⟩
    · rw [unsigned, dropPlus_of_all_isDigit (List.all_eq_true.2 digits)]
      exact ⟨nonempty, digits, value⟩
    · rw [signed]
      exact ⟨nonempty, digits, value⟩

/-- Exactly the numerals of numbers below the limit have a reading. -/
theorem read?_eq_some_iff {limit n : Nat} {text : String} :
    read? limit text = some n ↔ Spells text n ∧ n < limit := by
  rw [read?, Option.filter_eq_some_iff, ofDigits?_dropPlus_eq_some_iff, decide_eq_true_iff]

/-- Words that are the numbers below a limit are read from the numerals of these numbers. -/
theorem map_read?_eq_some_iff {α : Type} {ofNat : Nat → α} {toNat : α → Nat} {limit : Nat}
    {text : String} {word : α} (below : ∀ word, toNat word < limit)
    (ofNat_toNat : ∀ word, ofNat (toNat word) = word)
    (toNat_ofNat : ∀ n < limit, toNat (ofNat n) = n) :
    (read? limit text).map ofNat = some word ↔ Spells text (toNat word) := by
  rw [Option.map_eq_some_iff]
  constructor
  · rintro ⟨number, reads, rfl⟩
    obtain ⟨spelled, small⟩ := read?_eq_some_iff.1 reads
    rwa [toNat_ofNat number small]
  · intro spelled
    exact ⟨toNat word, read?_eq_some_iff.2 ⟨spelled, below word⟩, ofNat_toNat word⟩

/-- A word is read exactly from its spellings; a number too large for one is none. -/
theorem readUInt32?_eq_some_iff {text : String} {n : UInt32} :
    readUInt32? text = some n ↔ Spells text n.toNat :=
  map_read?_eq_some_iff UInt32.toNat_lt (fun _ => UInt32.ofNat_toNat)
    fun _ small => UInt32.toNat_ofNat_of_lt' small

theorem readUInt64?_eq_some_iff {text : String} {n : UInt64} :
    readUInt64? text = some n ↔ Spells text n.toNat :=
  map_read?_eq_some_iff UInt64.toNat_lt (fun _ => UInt64.ofNat_toNat)
    fun _ small => UInt64.toNat_ofNat_of_lt' small

/-- Reading takes writing back. -/
theorem read?_toString {limit n : Nat} (small : n < limit) : read? limit (toString n) = some n := by
  have digits : (Nat.toDigits 10 n).all Char.isDigit = true :=
    List.all_eq_true.2 fun _ member => Nat.isDigit_of_mem_toDigits (by decide) (by decide) member
  have written : (toString n).toList = Nat.toDigits 10 n := by
    show n.repr.toList = _
    rw [Nat.repr_eq_ofList_toDigits, String.toList_ofList]
  rw [read?, written, dropPlus_of_all_isDigit digits, ofDigits?_toDigits]
  simp [small]

/-- A word is read back from its numeral. -/
theorem readUInt32?_toString (n : UInt32) : readUInt32? (toString n.toNat) = some n := by
  rw [readUInt32?, read?_toString n.toNat_lt]
  simp

example : read? 100 "+007" = some 7 := by decide

example : read? 100 "100" = none := by decide

example : read? 100 "-1" = none ∧ read? 100 "+" = none ∧ read? 100 "1 " = none := by decide

end QuerySync.Text.Numeral
