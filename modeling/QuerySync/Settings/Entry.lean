import QuerySync.Text.Blank

/-!
# Entries of a settings text

A settings text is a list of entries, and an entry is a line as a rule.

* An entry goes on through the lines in which a quotation mark is open at the end.
* A backslash takes its meaning away from the character after it, inside single
  quotation marks too.
* A comment ends the entry: a number sign that follows white space.  Of several
  white-space characters in a row the second one counts for nothing, the fourth one
  neither, so the number sign has to follow an odd one.
* A line that begins with a number sign is no entry.

The text has to end where an entry could end.  What is left of it otherwise is no
entry: an open quotation mark, a lone backslash or white space that a comment could
follow.
-/

namespace QuerySync.Settings

/-! ## Quotation marks -/

/-- How a character is quoted. -/
inductive Quoting where
  /-- Not at all. -/
  | bare
  /-- By single quotation marks. -/
  | single
  /-- By double quotation marks. -/
  | double
deriving DecidableEq, Repr

/-- How the character after one is quoted. -/
def Quoting.next : Quoting → Char → Quoting
  | bare, '\'' => single
  | bare, '"' => double
  | single, '\'' => bare
  | double, '"' => bare
  | quoting, _ => quoting

/-! ## Lines -/

/-- The lines of a text, each with the line feed at its end. -/
def lines : List Char → List (List Char)
  | [] => []
  | '\n' :: rest => ['\n'] :: lines rest
  | c :: rest =>
    match lines rest with
    | [] => [[c]]
    | line :: others => (c :: line) :: others

/-- Nothing is lost in lines. -/
theorem flatten_lines (chars : List Char) : (lines chars).flatten = chars := by
  fun_induction lines chars <;> simp_all

/-! ## The end of an entry -/

/-- What is known of the characters of an entry so far. -/
inductive Scan where
  /-- The next character is quoted somehow, and perhaps a backslash stands before it. -/
  | inside (quoting : Quoting) (escaped : Bool)
  /-- White space that a comment may follow. -/
  | blank
deriving DecidableEq, Repr

namespace Scan

/-- At the beginning of an entry, and wherever it may end. -/
def start : Scan := inside .bare false

/-- Whether a character is white space that a comment may follow. -/
def isGap (c : Char) : Bool := Text.isSpace c && c != '\n' && c != '\r'

/-- What is known after one more character. -/
def next : Scan → Char → Scan
  | inside quoting true, _ => inside quoting false
  | inside quoting false, '\\' => inside quoting true
  | inside .bare false, c => if isGap c then blank else inside (Quoting.bare.next c) false
  | inside quoting false, c => inside (quoting.next c) false
  | blank, '\\' => inside .bare true
  | blank, c => inside (Quoting.bare.next c) false

/-- Reads a line: what stands before a comment, and what is known at the end of it if
there is no comment. -/
def line : Scan → List Char → List Char × Option Scan
  | scan, [] => ([], some scan)
  | blank, '#' :: _ => ([], none)
  | scan, c :: rest =>
    let (kept, last?) := line (scan.next c) rest
    (c :: kept, last?)

end Scan

/-! ## Entries -/

/-- Whether a line begins with a number sign, white space before it or not. -/
def isComment (line : List Char) : Bool := (line.dropWhile Text.isSpace).head? = some '#'

/-- The entries of a list of lines, given the lines before that have no end yet. -/
def entriesFrom (held : List Char) (scan : Scan) : List (List Char) → List (List Char)
  | [] => []
  | line :: lines =>
    if isComment (held ++ line) then entriesFrom [] .start lines
    else
      match scan.line line with
      | (kept, none) => (held ++ kept) :: entriesFrom [] .start lines
      | (kept, some last) =>
        if last = .start then (held ++ kept) :: entriesFrom [] .start lines
        else entriesFrom (held ++ kept) last lines

/-- The entries of a text. -/
def entries (chars : List Char) : List (List Char) := entriesFrom [] .start (lines chars)

example : entries "a 'b\nc' #d\n# e\nf  #g".toList
    = ["a 'b\nc' ".toList, "f  #g".toList] := by decide

example : entries "a\\\nb\\".toList = ["a\\\n".toList] := by decide

end QuerySync.Settings
