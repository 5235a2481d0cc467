/-!
# Blanks

The characters with the Unicode property White_Space, the trim that removes them
from both ends of a text, and the texts that hold nothing else.

The property is a table of twenty-five code points (`isBlank`), wider than
`Char.isWhitespace`, which knows six of them.  A text is blank exactly when its
trim is empty (`isBlank_iff_trim_eq_empty`).
-/

namespace QuerySync.Text

/-! ## The table -/

/-- The code points with the property White_Space, as closed ranges. -/
def blankRanges : List (Nat × Nat) :=
  [(0x09, 0x0D), (0x20, 0x20), (0x85, 0x85), (0xA0, 0xA0), (0x1680, 0x1680), (0x2000, 0x200A),
    (0x2028, 0x2029), (0x202F, 0x202F), (0x205F, 0x205F), (0x3000, 0x3000)]

/-- Whether a character is white space. -/
def isSpace (c : Char) : Bool :=
  blankRanges.any fun range => range.1 ≤ c.toNat && c.toNat ≤ range.2

/-- The table holds twenty-five code points. -/
example : (blankRanges.map fun range => range.2 + 1 - range.1).sum = 25 := rfl

/-- The visible characters of ASCII are not white space. -/
theorem isSpace_eq_false_of_ascii {c : Char} (above : 0x20 < c.toNat) (below : c.toNat < 0x7F) :
    isSpace c = false := by
  simp only [isSpace, blankRanges, List.any_eq_false, List.mem_cons, List.not_mem_nil, or_false,
    Bool.and_eq_true, decide_eq_true_eq]
  rintro range (rfl | rfl | rfl | rfl | rfl | rfl | rfl | rfl | rfl | rfl) <;> omega

/-! ## Trimming -/

/-- Drops white space from both ends of a list of characters. -/
def trimChars (chars : List Char) : List Char :=
  ((chars.dropWhile isSpace).reverse.dropWhile isSpace).reverse

/-- Drops white space from both ends of a text. -/
def trim (text : String) : String := String.ofList (trimChars text.toList)

/-- Whether a text holds no character but white space. -/
def isBlank (text : String) : Bool := text.toList.all isSpace

/-- A text with at least one character that is not white space. -/
def nonblank? (text : String) : Option String := if isBlank text then none else some text

theorem dropWhile_eq_nil_iff {chars : List Char} :
    chars.dropWhile isSpace = [] ↔ chars.all isSpace = true := by
  induction chars with
  | nil => simp
  | cons c rest induction =>
    by_cases space : isSpace c = true <;> simp [space, induction]

theorem dropWhile_reverse_of_head {chars : List Char} {c : Char} {rest : List Char}
    (head : chars = c :: rest) (notSpace : isSpace c = false) :
    chars.reverse.dropWhile isSpace ≠ [] := by
  intro empty
  have all := dropWhile_eq_nil_iff.1 empty
  rw [List.all_reverse, head] at all
  simp [notSpace] at all

/-- A trim is empty exactly when there was nothing but white space. -/
theorem trimChars_eq_nil_iff {chars : List Char} :
    trimChars chars = [] ↔ chars.all isSpace = true := by
  constructor
  · intro empty
    cases rest : chars.dropWhile isSpace with
    | nil => exact dropWhile_eq_nil_iff.1 rest
    | cons c cs =>
      have notSpace : isSpace c = false := by
        have := List.head?_dropWhile_not isSpace chars
        simpa [rest] using this
      exact absurd (List.reverse_eq_nil_iff.1 empty) (dropWhile_reverse_of_head rest notSpace)
  · intro all
    simp [trimChars, dropWhile_eq_nil_iff.2 all]

/-- A text is blank where nothing of it is left. -/
theorem isBlank_iff_trim_eq_empty {text : String} : isBlank text = true ↔ trim text = "" := by
  rw [isBlank, ← trimChars_eq_nil_iff, trim, ← String.ofList_nil, String.ofList_inj]

/-- The text itself is kept, the white space around it too. -/
theorem nonblank?_eq_some_iff {text visible : String} :
    nonblank? text = some visible ↔ text = visible ∧ isBlank visible = false := by
  unfold nonblank?
  split
  next blank =>
    constructor
    · exact nofun
    · rintro ⟨rfl, notBlank⟩
      exact absurd blank (by simp [notBlank])
  next notBlank =>
    constructor
    · rintro ⟨⟩
      exact ⟨rfl, by simpa using notBlank⟩
    · rintro ⟨rfl, -⟩
      rfl

theorem bind_nonblank?_eq_some_iff {text? : Option String} {visible : String} :
    text?.bind nonblank? = some visible ↔ text? = some visible ∧ isBlank visible = false := by
  cases text? with
  | none => simp
  | some text => simp [nonblank?_eq_some_iff]

/-- What can be seen is kept as it is. -/
theorem bind_nonblank?_of_forall_visible {text? : Option String}
    (visible : ∀ text ∈ text?, isBlank text = false) : text?.bind nonblank? = text? := by
  cases text? with
  | none => rfl
  | some text => exact nonblank?_eq_some_iff.2 ⟨rfl, visible text rfl⟩

example : trim "\u3000 a b\t" = "a b" := by decide

example : isBlank "\u2003\u0085" = true := by decide

end QuerySync.Text
