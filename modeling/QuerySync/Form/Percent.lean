/-!
# Percent-encoding of form components

A component of a form is written byte by byte.  ASCII letters, digits and the four
marks `*`, `-`, `.` and `_` stand for themselves, a space is written as a plus
sign, and every other byte as a percent sign with two upper-case hexadecimal digits.

Reading accepts more than writing produces: lower-case digits, any byte that
needed no escape, and a percent sign without two digits, which stands for itself.
A plus sign is read as a space before escapes are resolved, so an escaped plus
sign stays one.
-/

namespace QuerySync.Form

/-- The byte of a plus sign. -/
def plus : UInt8 := 0x2B

/-- The byte of a space. -/
def space : UInt8 := 0x20

/-- The byte of a percent sign. -/
def percent : UInt8 := 0x25

/-- Whether a byte is written as it is. -/
def isPlain (byte : UInt8) : Bool :=
  (0x30 ≤ byte && byte ≤ 0x39) || (0x41 ≤ byte && byte ≤ 0x5A) || (0x61 ≤ byte && byte ≤ 0x7A) ||
    byte == 0x2A || byte == 0x2D || byte == 0x2E || byte == 0x5F

/-- The upper-case hexadecimal digit of a number below sixteen. -/
def hexDigit (n : UInt8) : UInt8 := if n < 10 then 0x30 + n else 0x37 + n

/-- The value of a hexadecimal digit of either case. -/
def hexValue? (byte : UInt8) : Option UInt8 :=
  if 0x30 ≤ byte ∧ byte ≤ 0x39 then some (byte - 0x30)
  else if 0x41 ≤ byte ∧ byte ≤ 0x46 then some (byte - 0x37)
  else if 0x61 ≤ byte ∧ byte ≤ 0x66 then some (byte - 0x57)
  else none

/-- One byte as it is written. -/
def encodeByte (byte : UInt8) : List UInt8 :=
  if byte = space then [plus]
  else if isPlain byte then [byte]
  else [percent, hexDigit (byte / 16), hexDigit (byte % 16)]

/-- A component as it is written. -/
def encode (bytes : List UInt8) : List UInt8 := bytes.flatMap encodeByte

/-- The byte that two hexadecimal digits at the front of a list stand for. -/
def escaped? : List UInt8 → Option UInt8
  | high :: low :: _ => do return 16 * (← hexValue? high) + (← hexValue? low)
  | _ => none

/-- Resolves the escapes of a component. -/
def unescape : List UInt8 → List UInt8
  | [] => []
  | byte :: rest =>
    if byte = percent then
      match escaped? rest with
      | some value => value :: unescape (rest.drop 2)
      | none => byte :: unescape rest
    else byte :: unescape rest
termination_by bytes => bytes.length
decreasing_by
  all_goals simp only [List.length_drop, List.length_cons]
  all_goals omega

/-- Reads a component: plus signs are spaces, then escapes are resolved. -/
def decode (bytes : List UInt8) : List UInt8 :=
  unescape (bytes.map fun byte => if byte = plus then space else byte)

/-- The bytes of `a %` are written as `a+%25`. -/
example : encode [0x61, 0x20, 0x25] = [0x61, 0x2B, 0x25, 0x32, 0x35] := by decide

end QuerySync.Form
