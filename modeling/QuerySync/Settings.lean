import QuerySync.Settings.Entry
import QuerySync.Settings.Value

/-!
# Settings

A settings text assigns values to variables, one assignment an entry.  Entries are
done in their order, and a value sees the variables that are set then.  An assignment
never changes a variable that is set already, be it by an earlier entry
(`get?_of_load?`).

The first entry that is not an assignment is the end of the settings, and what was
assigned before it stays.  A text with the null character is no value of a variable,
and there are no variables at all if one that is not set is assigned such a text.
-/

namespace QuerySync.Settings

/-- An assignment. -/
structure Assignment where
  /-- The name of the variable. -/
  name : String
  /-- Its value. -/
  value : List Part
deriving DecidableEq, Repr

/-! ## Reading -/

/-- Whether a character may be in the name of a variable. -/
def isNameChar (c : Char) : Bool := c.isAlphanum || c = '_' || c = '.'

/-- Reads the name of a variable, which begins with a letter or an underscore, and
gives what follows it and the white space after it. -/
def name? (chars : List Char) : Option (List Char × List Char) :=
  if chars.head?.any fun c => c.isAlpha || c = '_' then
    some (chars.takeWhile isNameChar, (chars.dropWhile isNameChar).dropWhile Text.isSpace)
  else none

/-- Reads the name of an assignment, and gives what follows its equals sign.  The word
`export` may stand before the name. -/
def assigned? (chars : List Char) : Option (List Char × List Char) := do
  let (word, rest) ← name? chars
  match rest with
  | '=' :: rest => return (word, rest)
  | rest =>
    guard (word = "export".toList)
    let (name, '=' :: rest) ← name? rest | none
    return (name, rest)

/-- Reads an assignment. -/
def assignment? (chars : List Char) : Option Assignment := do
  let (name, rest) ← assigned? chars
  return { name := String.ofList name, value := ← valueParts? (rest.dropWhile Text.isSpace) }

/-! ## Loading -/

/-- Whether a text may be the value of a variable. -/
def isValue (text : String) : Bool := !text.toList.contains '\x00'

/-- Sets a variable that is not set, if the text for it may be its value. -/
def assign? (bindings : KeyMap String) (assignment : Assignment) : Option (KeyMap String) :=
  if bindings.contains assignment.name then some bindings
  else
    let text := expand bindings assignment.value
    if isValue text then some (bindings.insert assignment.name text) else none

/-- Does the assignments of a list of entries.  An entry may be blank. -/
def loadEntries? : KeyMap String → List (List Char) → Option (KeyMap String)
  | bindings, [] => some bindings
  | bindings, entry :: entries =>
    match Text.trimChars entry with
    | [] => loadEntries? bindings entries
    | chars =>
      match assignment? chars with
      | some assignment => (assign? bindings assignment).bind (loadEntries? · entries)
      | none => some bindings

/-- A text without the mark of its byte order. -/
def dropMark : List Char → List Char
  | '\uFEFF' :: rest => rest
  | chars => chars

/-- Does the assignments of a settings text, if none of them fails. -/
def load? (bindings : KeyMap String) (settings : String) : Option (KeyMap String) :=
  loadEntries? bindings (entries (dropMark settings.toList))

/-! ## Variables that are set -/

variable {bindings loaded : KeyMap String} {name value : String}

/-- A variable that is set keeps its value. -/
theorem get?_of_assign? {assignment : Assignment}
    (done : assign? bindings assignment = some loaded)
    (set : bindings.get? name = some value) : loaded.get? name = some value := by
  unfold assign? at done
  split at done
  next =>
    cases done
    exact set
  next free =>
    have different : assignment.name ≠ name := by
      rintro rfl
      simp [KeyMap.contains, set] at free
    rw [Option.ite_none_right_eq_some] at done
    obtain ⟨-, same⟩ := done
    cases same
    rw [KeyMap.get?_insert, if_neg different, set]

theorem get?_of_loadEntries? {entries : List (List Char)}
    (done : loadEntries? bindings entries = some loaded)
    (set : bindings.get? name = some value) : loaded.get? name = some value := by
  induction entries generalizing bindings with
  | nil =>
    cases done
    exact set
  | cons entry entries induction =>
    unfold loadEntries? at done
    split at done
    next => exact induction done set
    next =>
      split at done
      next assignment _ =>
        obtain ⟨next, assigned, rest⟩ := Option.bind_eq_some_iff.1 done
        exact induction rest (get?_of_assign? assigned set)
      next =>
        cases done
        exact set

/-- A variable that is set keeps its value. -/
theorem get?_of_load? {settings : String} (done : load? bindings settings = some loaded)
    (set : bindings.get? name = some value) : loaded.get? name = some value :=
  get?_of_loadEntries? done set

example : (load? ∅ "A=1\n\n# B=0\nB = ${A}2 # two\nB=3").bind (·.get? "B") = some "12" := by
  decide +kernel

example : (load? ∅ "A=1\nB\nC=2").map KeyMap.entries = some [("A", "1")] := by decide

end QuerySync.Settings
