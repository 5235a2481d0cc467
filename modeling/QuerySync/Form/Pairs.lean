import QuerySync.Form.Percent
import QuerySync.Text.Utf8

/-!
# Pairs of a form

A form is a list of named values, written as `name=value` with an ampersand
between each two pairs.

Reading skips empty sequences between ampersands.  The first equals sign of a
sequence ends the name, and a sequence without one is a name with an empty value.
Names and values are bytes until they are decoded as UTF-8 with replacement, so
every text is a form.
-/

namespace QuerySync.Form

/-- The byte of an ampersand. -/
def ampersand : UInt8 := 0x26

/-- The byte of an equals sign. -/
def equals : UInt8 := 0x3D

/-- The text of a component. -/
def componentText (bytes : List UInt8) : String :=
  String.ofList (Text.Utf8.decode (decode bytes))

/-- The component of a text. -/
def textComponent (text : String) : List UInt8 := encode (Text.Utf8.encode text.toList)

/-- One pair, read from the sequence between two ampersands. -/
def readPair (sequence : List UInt8) : String × String :=
  (componentText (sequence.takeWhile (· != equals)),
    componentText ((sequence.dropWhile (· != equals)).drop 1))

/-- The pairs of a form, in the order of the text. -/
def read (text : String) : List (String × String) :=
  (((Text.Utf8.encode text.toList).splitOn ampersand).filter (· ≠ [])).map readPair

/-- One pair as it is written. -/
def writePair (pair : String × String) : List UInt8 :=
  textComponent pair.1 ++ equals :: textComponent pair.2

/-- The form of a list of pairs.  Every byte of it is an ASCII character. -/
def write (pairs : List (String × String)) : String :=
  String.ofList (([ampersand].intercalate (pairs.map writePair)).map fun byte => .ofNat byte.toNat)

end QuerySync.Form
