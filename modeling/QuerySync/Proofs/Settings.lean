import Mathlib.Data.List.Basic
import QuerySync.Settings
import QuerySync.Text.Tokens

/-!
# Settings that can be loaded

Loading fails at a text that is no value of a variable, so it takes the null character.  Nothing
puts one into a text: a value has characters of the settings, line feeds and the values of other
variables (`mem_of_assignment?`, `isValue_expand`).  So settings without the null character are
loaded whatever else is in them (`exists_load?_eq_some`), provided that the variables that are set
before have values, and then all variables have values.
-/

namespace QuerySync.Settings

/-- The texts of all variables are values. -/
def Values (bindings : KeyMap String) : Prop :=
  ∀ {name value}, bindings.get? name = some value → isValue value = true

variable {bindings loaded : KeyMap String} {chars : List Char} {c : Char}

theorem isValue_iff {text : String} : isValue text = true ↔ '\x00' ∉ text.toList := by
  simp [isValue]

/-! ## Entries -/

theorem mem_of_mem_line {scan : Scan} {line : List Char} (member : c ∈ (scan.line line).1) :
    c ∈ line := by
  fun_induction Scan.line scan line with
  | case1 => exact member
  | case2 => exact nomatch member
  | case3 scan first rest _ kept last? read induction =>
    rcases List.mem_cons.1 member with rfl | inKept
    · exact .head _
    · rw [read] at induction
      exact .tail _ (induction inKept)

/-- An entry has characters of its lines only. -/
theorem mem_of_mem_entriesFrom {held entry : List Char} {scan : Scan} {lines : List (List Char)}
    (isEntry : entry ∈ entriesFrom held scan lines) (member : c ∈ entry) :
    c ∈ held ∨ c ∈ lines.flatten := by
  have fromKept {held line kept : List Char} {scan : Scan} {last? : Option Scan}
      (read : scan.line line = (kept, last?)) (member : c ∈ held ++ kept) :
      c ∈ held ∨ c ∈ line := by
    have inLine (inKept : c ∈ kept) : c ∈ (scan.line line).1 := by rwa [read]
    exact (List.mem_append.1 member).imp_right fun inKept => mem_of_mem_line (inLine inKept)
  have later {rest : List (List Char)} (line : List Char) (found : c ∈ [] ∨ c ∈ rest.flatten) :
      c ∈ (line :: rest).flatten :=
    List.mem_append_right _ (found.resolve_left List.not_mem_nil)
  fun_induction entriesFrom held scan lines with
  | case1 => exact nomatch isEntry
  | case2 held scan line rest comment induction => exact .inr (later line (induction isEntry))
  | case3 held scan line rest _ kept read induction
  | case4 held scan line rest _ kept read induction =>
    rcases List.mem_cons.1 isEntry with rfl | isEntry
    · exact (fromKept read member).imp_right (List.mem_append_left _)
    · exact .inr (later line (induction isEntry))
  | case5 held scan line rest _ kept last read _ induction =>
    rcases induction isEntry with inHeld | inRest
    · exact (fromKept read inHeld).imp_right (List.mem_append_left _)
    · exact .inr (List.mem_append_right _ inRest)

/-- The characters of an entry are in the settings. -/
theorem mem_of_mem_entries {entry : List Char} (isEntry : entry ∈ entries chars)
    (member : c ∈ entry) : c ∈ chars := by
  have found := mem_of_mem_entriesFrom isEntry member
  rw [flatten_lines] at found
  exact found.resolve_left List.not_mem_nil

theorem mem_of_mem_dropMark (member : c ∈ dropMark chars) : c ∈ chars := by
  unfold dropMark at member
  split at member
  · exact .tail _ member
  · exact member

/-! ## Values -/

/-- An escape stands for the character it names or for a line break. -/
theorem eq_of_escaped? {d : Char} (escaped : escaped? d = some c) : c = d ∨ c = '\n' := by
  unfold escaped? at escaped
  split at escaped
  · exact .inr (Option.some.inj escaped).symm
  · rw [Option.ite_none_right_eq_some] at escaped
    exact .inl (Option.some.inj escaped.2).symm

/-- Where a character of a value comes from, if the parts in front are read from `d` and the others
from `rest`. -/
theorem mem_of_map_append (front : List Part) {parts : List Part} {others? : Option (List Part)}
    {d : Char} {rest : List Char} (read : others?.map (front ++ ·) = some parts)
    (member : .char c ∈ parts)
    (first : .char c ∈ front → c = d ∨ c = '\n')
    (later : ∀ {others}, others? = some others → .char c ∈ others → c ∈ rest ∨ c = '\n') :
    c ∈ d :: rest ∨ c = '\n' := by
  obtain ⟨others, readOthers, rfl⟩ := Option.map_eq_some_iff.1 read
  rcases List.mem_append.1 member with inFront | inOthers
  · exact (first inFront).imp_left fun same => List.mem_cons.2 (.inl same)
  · exact (later readOthers inOthers).imp_left (.tail _)

/-- The characters of a value are in its text, or they are line feeds. -/
theorem mem_of_parts? {mode : Mode} {parts : List Part} (read : parts? mode chars = some parts)
    (member : .char c ∈ parts) : c ∈ chars ∨ c = '\n' := by
  -- A character makes no part for now, or it is a part, or a name ends before it.
  fun_induction parts? mode chars generalizing parts with
  | case1 | case2 | case3 | case4 | case22 =>
    cases read
    simp [valueOfName] at member
  | case5 | case23 => cases read
  | case6 _ _ later | case7 _ _ _ later | case8 _ _ _ _ later | case9 _ _ _ _ _ _ _ later
  | case10 _ _ _ _ _ _ _ _ later | case12 _ later | case15 _ _ _ _ _ later
  | case16 _ _ _ _ _ _ later | case20 _ _ _ _ _ later | case21 _ _ _ later =>
    exact (later read member).imp_left (.tail _)
  | case11 quoted d rest _ _ _ _ _ later | case13 d rest _ later =>
    exact mem_of_map_append [.char d] read member (by simpa using Or.inl) later
  | case14 quoted d rest later =>
    obtain ⟨e, escaped, read⟩ := Option.bind_eq_some_iff.1 read
    refine mem_of_map_append [.char e] read member ?_ later
    intro first
    cases List.mem_singleton.1 first
    exact eq_of_escaped? escaped
  | case17 quoted name rest _ _ later | case19 quoted name rest later =>
    exact mem_of_map_append [valueOfName name] read member (by simp [valueOfName]) later
  | case18 quoted name d rest _ _ _ later =>
    exact mem_of_map_append [valueOfName name, .char d] read member
      (by simpa [valueOfName] using Or.inl) later

/-- What a name stands for ends the value of a variable. -/
theorem isValue_lookup? {name text : String} (values : Values bindings)
    (found : lookup? bindings name = some text) : isValue text = true := by
  simp only [lookup?] at found
  split at found
  next => exact values found
  next =>
    obtain ⟨value, isBound, rest⟩ := Option.bind_eq_some_iff.1 found
    obtain ⟨ending, isEnding, same⟩ := Option.bind_eq_some_iff.1 rest
    cases same
    rw [isValue_iff, String.toList_ofList]
    intro null
    have whole := List.append_eq_of_isPrefixOf?_eq_some isEnding
    refine isValue_iff.1 (values isBound) ?_
    rw [← whole]
    exact List.mem_append_right _ null

/-- Without the null character in its parts, the text of a value is one. -/
theorem isValue_expand {parts : List Part} (values : Values bindings)
    (plain : .char '\x00' ∉ parts) : isValue (expand bindings parts) = true := by
  rw [isValue_iff, expand, String.toList_join, List.mem_flatMap]
  rintro ⟨text, inTexts, null⟩
  obtain ⟨part, isPart, rfl⟩ := List.mem_map.1 inTexts
  cases part with
  | char c =>
    rw [Part.text, String.toList_singleton, List.mem_singleton] at null
    exact plain (null ▸ isPart)
  | valueOf name =>
    rw [Part.text] at null
    cases found : lookup? bindings name with
    | none => simp [found] at null
    | some text =>
      rw [found, Option.getD_some] at null
      exact isValue_iff.1 (isValue_lookup? values found) null

/-! ## Assignments -/

theorem subset_of_name? {word rest : List Char} (read : name? chars = some (word, rest)) :
    rest ⊆ chars := by
  unfold name? at read
  rw [Option.ite_none_right_eq_some] at read
  cases read.2
  exact fun c member => List.dropWhile_subset _ (List.dropWhile_subset _ member)

theorem subset_of_assigned? {word rest : List Char}
    (read : assigned? chars = some (word, rest)) : rest ⊆ chars := by
  obtain ⟨⟨word, afterWord⟩, isWord, read⟩ := Option.bind_eq_some_iff.1 read
  have fromWord := subset_of_name? isWord
  dsimp only at read
  split at read
  next =>
    cases read
    exact fun c member => fromWord (.tail _ member)
  next =>
    obtain ⟨-, -, read⟩ := Option.bind_eq_some_iff.1 read
    obtain ⟨⟨name, afterName⟩, isName, read⟩ := Option.bind_eq_some_iff.1 read
    have fromName := subset_of_name? isName
    split at read
    next same =>
      cases read
      cases same
      exact fun c member => fromWord (fromName (.tail _ member))
    next => cases read

/-- The characters of the value of an assignment are in the text of it, or they are line feeds. -/
theorem mem_of_assignment? {assignment : Assignment} (read : assignment? chars = some assignment)
    (member : .char c ∈ assignment.value) : c ∈ chars ∨ c = '\n' := by
  obtain ⟨⟨name, rest⟩, isAssigned, read⟩ := Option.bind_eq_some_iff.1 read
  obtain ⟨parts, isParts, same⟩ := Option.bind_eq_some_iff.1 read
  cases same
  unfold valueParts? at isParts
  split at isParts
  · cases isParts
    exact nomatch member
  · refine (mem_of_parts? isParts member).imp_left fun inRest => ?_
    exact subset_of_assigned? isAssigned (List.dropWhile_subset _ inRest)

/-! ## Loading -/

/-- Where all variables have values, they have values after an assignment. -/
theorem Values.assign? {assignment : Assignment} (values : Values bindings)
    (done : assign? bindings assignment = some loaded) : Values loaded := by
  unfold Settings.assign? at done
  split at done
  · cases done
    exact values
  · rw [Option.ite_none_right_eq_some] at done
    obtain ⟨isValue, same⟩ := done
    cases same
    intro name value found
    rw [KeyMap.get?_insert] at found
    split at found
    · cases found
      exact isValue
    · exact values found

/-- A value without the null character is assigned. -/
theorem exists_assign?_eq_some {assignment : Assignment} (values : Values bindings)
    (plain : .char '\x00' ∉ assignment.value) :
    ∃ loaded, assign? bindings assignment = some loaded := by
  unfold Settings.assign?
  split
  · exact ⟨_, rfl⟩
  · exact ⟨_, if_pos (isValue_expand values plain)⟩

/-- Entries without the null character do not fail, and what they assign are values. -/
theorem exists_loadEntries?_eq_some {entries : List (List Char)} (values : Values bindings)
    (plain : ∀ entry ∈ entries, '\x00' ∉ entry) :
    ∃ loaded, loadEntries? bindings entries = some loaded ∧ Values loaded := by
  induction entries generalizing bindings with
  | nil => exact ⟨bindings, rfl, values⟩
  | cons entry entries induction =>
    have plainRest : ∀ entry ∈ entries, '\x00' ∉ entry := fun _ inRest => plain _ (.tail _ inRest)
    unfold loadEntries?
    split
    next => exact induction values plainRest
    next =>
      split
      next assignment read =>
        have plainValue : .char '\x00' ∉ assignment.value := by
          intro null
          rcases mem_of_assignment? read null with inEntry | feed
          · exact plain entry (.head _) (Text.mem_of_mem_trimChars inEntry)
          · exact absurd feed (by decide)
        obtain ⟨next, assigned⟩ := exists_assign?_eq_some values plainValue
        rw [assigned, Option.bind_some]
        exact induction (values.assign? assigned) plainRest
      next => exact ⟨bindings, rfl, values⟩

/-- Settings without the null character are loaded, and every variable has a value then. -/
theorem exists_load?_eq_some {settings : String} (values : Values bindings)
    (plain : '\x00' ∉ settings.toList) :
    ∃ loaded, load? bindings settings = some loaded ∧ Values loaded := by
  refine exists_loadEntries?_eq_some values fun entry isEntry null => plain ?_
  exact mem_of_mem_dropMark (mem_of_mem_entries isEntry null)

example : load? ∅ "A=1\nB='\x00'" = none := by decide

end QuerySync.Settings
