import QuerySync.KeyMap
import QuerySync.Text.Alphanumeric

/-!
# Values in a settings text

A value is written as characters and the names of variables, and it is known when the
variables are.

A variable and its value make one text, `name=value`, and what stands before an equals
sign of it is a name for what follows.  So a name in braces may go on into the value
of the variable that it begins with.

* Single quotation marks take its meaning away from every character between them.
* Double quotation marks do so with white space and single quotation marks.
* Outside of single quotation marks a backslash stands before a quotation mark, a
  backslash, a dollar sign or a space that is a plain character, and before an `n`
  that is a line feed.
* A dollar sign stands before a name.  The name is in braces, or it goes on as far as
  there are letters and digits.  The character after it is plain, whatever it is,
  unless it is a dollar sign again.
* White space ends the value, and a comment may follow it.
-/

namespace QuerySync.Settings

/-- A part of a value. -/
inductive Part where
  /-- A character. -/
  | char (c : Char)
  /-- The value of a variable. -/
  | valueOf (name : String)
deriving DecidableEq, Repr

/-- What a name stands for.  If there is an equals sign in it, it begins with the name
of a variable, and goes on with the beginning of its value. -/
def lookup? (bindings : KeyMap String) (name : String) : Option String :=
  let chars := name.toList
  match chars.dropWhile (· ≠ '=') with
  | [] => bindings.get? name
  | _ :: start => do
    let value ← bindings.get? (String.ofList (chars.takeWhile (· ≠ '=')))
    let rest ← (start ++ ['=']).isPrefixOf? value.toList
    return String.ofList rest

namespace Part

/-- The text of a part, empty for a name that stands for nothing. -/
def text (bindings : KeyMap String) : Part → String
  | char c => String.singleton c
  | valueOf name => (lookup? bindings name).getD ""

end Part

/-- The text of a value. -/
def expand (bindings : KeyMap String) (parts : List Part) : String :=
  String.join (parts.map (Part.text bindings))

/-- What a value is read in the middle of.  Names have their newest character first. -/
inductive Mode where
  /-- Nothing, or a pair of double quotation marks. -/
  | plain (quoted : Bool)
  /-- A pair of single quotation marks. -/
  | literal
  /-- An escape. -/
  | escape (quoted : Bool)
  /-- A name. -/
  | name (quoted : Bool) (chars : List Char)
  /-- A name in braces. -/
  | braced (quoted : Bool) (chars : List Char)
  /-- What follows the value. -/
  | after
deriving DecidableEq, Repr

/-- The value of the variable with a name, newest character first. -/
def valueOfName (chars : List Char) : Part := .valueOf (String.ofList chars.reverse)

/-- The character that a backslash and a character stand for. -/
def escaped? (c : Char) : Option Char :=
  if c = 'n' then some '\n' else if c ∈ ['\\', '\'', '"', '$', ' '] then some c else none

/-- Whether a character ends a value that is not quoted. -/
def isBreak (c : Char) : Bool := c = ' ' || c = '\t'

/-- The parts of a value. -/
def parts? : Mode → List Char → Option (List Part)
  | .plain false, [] | .escape false, [] | .after, [] => some []
  | .name false name, [] => some [valueOfName name]
  | _, [] => none
  | .plain quoted, c :: rest =>
    if c = '$' then parts? (.name quoted []) rest
    else if c = '"' then parts? (.plain !quoted) rest
    else if c = '\\' then parts? (.escape quoted) rest
    else if c = '\'' && !quoted then parts? .literal rest
    else if isBreak c && !quoted then parts? .after rest
    else (parts? (.plain quoted) rest).map (.char c :: ·)
  | .literal, c :: rest =>
    if c = '\'' then parts? (.plain false) rest else (parts? .literal rest).map (.char c :: ·)
  | .escape quoted, c :: rest =>
    (escaped? c).bind fun c => (parts? (.plain quoted) rest).map (.char c :: ·)
  | .name quoted name, c :: rest =>
    if Text.isAlphanumeric c then parts? (.name quoted (c :: name)) rest
    else if c = '\x7b' && name.isEmpty then parts? (.braced quoted []) rest
    else if c = '$' then (parts? (.name quoted []) rest).map (valueOfName name :: ·)
    else (parts? (.plain quoted) rest).map (valueOfName name :: .char c :: ·)
  | .braced quoted name, c :: rest =>
    if c = '\x7d' then (parts? (.plain quoted) rest).map (valueOfName name :: ·)
    else parts? (.braced quoted (c :: name)) rest
  | .after, c :: rest =>
    if isBreak c then parts? .after rest else if c = '#' then some [] else none

/-- The parts of the value that a text begins with.  A comment may stand in its place. -/
def valueParts? (chars : List Char) : Option (List Part) :=
  if chars.head? = some '#' then some [] else parts? (.plain false) chars

example : lookup? (KeyMap.ofList [("a", "b=c")]) "a=b" = some "c" := by decide

example : lookup? (KeyMap.ofList [("a", "b=c")]) "a=" = none := by decide

example : valueParts? "'$a'$b-\"c\\\"\" # d".toList
    = some ([.char '$', .char 'a', .valueOf "b", .char '-', .char 'c', .char '"']) := by
  decide +kernel

end QuerySync.Settings
