import Mathlib.Data.List.Forall2
import QuerySync.Status

/-!
# Statuses that count as one

Two statuses are compared by their normal forms.  These are the same exactly if the texts differ in
white space around them and in the case of ASCII letters alone (`Status.normalize_eq_iff`).  White
space may be any character that Unicode calls so, and no such character is a letter of ASCII, so
trimming and lower case do not get in each other's way.
-/

namespace QuerySync

/-! ## White space around a text -/

namespace Text

/-- Some characters with white space before and after them. -/
structure Padded (core chars : List Char) : Prop where
  /-- Nothing but white space is added. -/
  split : ∃ front back, chars = front ++ core ++ back ∧
    (∀ c ∈ front, isSpace c = true) ∧ ∀ c ∈ back, isSpace c = true

/-- A trim leaves out white space alone. -/
theorem padded_trimChars (chars : List Char) : Padded (trimChars chars) chars := by
  have blankFront : ∀ c ∈ chars.takeWhile isSpace, isSpace c = true :=
    List.all_eq_true.1 List.all_takeWhile
  have blankBack : ∀ c ∈ ((chars.dropWhile isSpace).reverse.takeWhile isSpace).reverse,
      isSpace c = true :=
    fun c member => List.all_eq_true.1 List.all_takeWhile c (List.mem_reverse.1 member)
  refine ⟨_, _, ?_, blankFront, blankBack⟩
  rw [trimChars, List.append_assoc, ← List.reverse_append, List.takeWhile_append_dropWhile,
    List.reverse_reverse, List.takeWhile_append_dropWhile]

theorem dropWhile_eq_nil_of_forall {chars : List Char} (blank : ∀ c ∈ chars, isSpace c = true) :
    chars.dropWhile isSpace = [] :=
  dropWhile_eq_nil_iff.2 (List.all_eq_true.2 blank)

/-- White space around a text makes no difference to its trim. -/
theorem Padded.trimChars_eq {core chars : List Char} (padded : Padded core chars) :
    trimChars chars = trimChars core := by
  obtain ⟨front, back, rfl, blankFront, blankBack⟩ := padded
  have blankReverse : ∀ c ∈ back.reverse, isSpace c = true :=
    fun c member => blankBack c (List.mem_reverse.1 member)
  rw [trimChars, trimChars, List.append_assoc, List.dropWhile_append_of_pos blankFront,
    List.dropWhile_append]
  split
  next blankCore =>
    rw [List.isEmpty_iff.1 blankCore, dropWhile_eq_nil_of_forall blankBack]
  next =>
    rw [List.reverse_append, List.dropWhile_append_of_pos blankReverse]

/-! ## Lower case -/

/-- Two characters are equal, or one ASCII letter in its two cases. -/
def SameLetter (c d : Char) : Prop :=
  c = d ∨ (c.isUpper = true ∧ d.toNat = c.toNat + 32) ∨ (d.isUpper = true ∧ c.toNat = d.toNat + 32)

theorem isUpper_iff {c : Char} : c.isUpper = true ↔ 65 ≤ c.toNat ∧ c.toNat ≤ 90 :=
  decide_eq_true_iff.trans (and_congr UInt32.le_iff_toNat_le UInt32.le_iff_toNat_le)

/-- Lowering a letter moves it to the small letters of ASCII and leaves all else alone. -/
theorem toNat_toLower (c : Char) :
    c.toLower.toNat = if c.isUpper then c.toNat + 32 else c.toNat := by
  unfold Char.toLower
  split
  next upper =>
    have isUpper : c.isUpper = true := decide_eq_true upper
    have fits : c.toNat + 32 < 2 ^ 32 := by
      have bounds := isUpper_iff.1 isUpper
      omega
    rw [if_pos isUpper]
    exact (UInt32.toNat_add c.val 32).trans (Nat.mod_eq_of_lt fits)
  next other =>
    have notUpper : c.isUpper = false := decide_eq_false other
    rw [if_neg (Bool.eq_false_iff.1 notUpper)]

/-- No letter of ASCII is white space, in either case. -/
theorem isSpace_toLower (c : Char) : isSpace c.toLower = isSpace c := by
  have number := toNat_toLower c
  split at number
  next upper =>
    have bounds := isUpper_iff.1 upper
    rw [isSpace_eq_false_of_ascii (by omega) (by omega),
      isSpace_eq_false_of_ascii (by omega) (by omega)]
  next => rw [Char.toNat_inj.1 number]

/-- Letters are the same up to case exactly where lowering makes them equal. -/
theorem sameLetter_iff {c d : Char} : SameLetter c d ↔ c.toLower = d.toLower := by
  have left := toNat_toLower c
  have right := toNat_toLower d
  simp only [isUpper_iff] at left right
  simp only [SameLetter, isUpper_iff, ← Char.toNat_inj, left, right]
  split <;> split <;> omega

/-- Lower case and a trim may change places. -/
theorem map_toLower_trimChars (chars : List Char) :
    (trimChars chars).map Char.toLower = trimChars (chars.map Char.toLower) := by
  have same : isSpace ∘ Char.toLower = isSpace := funext isSpace_toLower
  simp only [trimChars, List.dropWhile_map, ← List.map_reverse, same]

/-- Letter by letter, texts are lowered to the same one where they agree up to case. -/
theorem map_toLower_eq_iff {chars others : List Char} :
    chars.map Char.toLower = others.map Char.toLower ↔ List.Forall₂ SameLetter chars others := by
  have letters : SameLetter = fun c d => c.toLower = d.toLower := by
    funext c d
    exact propext sameLetter_iff
  rw [letters, ← List.forall₂_eq_eq_eq, List.forall₂_map_left_iff, List.forall₂_map_right_iff]

end Text

/-! ## Statuses -/

namespace Status

open Text

/-- Two texts differ in white space around them and in the case of ASCII letters alone. -/
def Alike (left right : String) : Prop :=
  ∃ core core', Padded core left.toList ∧ Padded core' right.toList ∧
    List.Forall₂ SameLetter core core'

/-- The normal forms of two texts are equal exactly if the texts are alike. -/
theorem normalize_eq_iff {left right : String} :
    normalize left = normalize right ↔ Alike left right := by
  rw [normalize, normalize, String.ofList_inj]
  constructor
  · intro same
    exact ⟨_, _, padded_trimChars _, padded_trimChars _, map_toLower_eq_iff.1 same⟩
  · rintro ⟨core, core', padded, padded', letters⟩
    rw [padded.trimChars_eq, padded'.trimChars_eq, map_toLower_trimChars, map_toLower_trimChars,
      map_toLower_eq_iff.2 letters]

instance (left right : String) : Decidable (Alike left right) :=
  decidable_of_iff _ normalize_eq_iff

theorem Alike.symm {left right : String} (alike : Alike left right) : Alike right left :=
  normalize_eq_iff.1 (normalize_eq_iff.2 alike).symm

theorem Alike.trans {left middle right : String} (alike : Alike left middle)
    (alikeToo : Alike middle right) : Alike left right :=
  normalize_eq_iff.1 ((normalize_eq_iff.2 alike).trans (normalize_eq_iff.2 alikeToo))

theorem normalize_eq_map_trim (text : String) :
    normalize text = (trim text).map Char.toLower := by
  rw [← String.toList_inj, normalize, trim, String.toList_map, String.toList_ofList,
    String.toList_ofList]

/-- Only a blank text is normalised to nothing. -/
theorem normalize_eq_empty_iff {text : String} : normalize text = "" ↔ isBlank text = true := by
  rw [normalize, ← String.ofList_nil, String.ofList_inj, List.map_eq_nil_iff, trimChars_eq_nil_iff,
    isBlank]

/-- Spelling does not decide whether a text is blank. -/
theorem Alike.isBlank_eq {left right : String} (alike : Alike left right) :
    isBlank left = isBlank right := by
  rw [Bool.eq_iff_iff, ← normalize_eq_empty_iff, ← normalize_eq_empty_iff,
    normalize_eq_iff.2 alike]

end Status

end QuerySync
