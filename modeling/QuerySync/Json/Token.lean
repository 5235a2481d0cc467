/-!
# Tokens of a JSON text

A JSON text is read character by character.  `Lexer.step` says what each character
does to what was read before, and the tokens are what is left at the end.

Letters, digits, points and signs that follow each other are one word, and a word is
one of the three names or a number.  Only four characters are blank.  A string may
hold an escaped half of a pair of UTF-16 units without the other half.  It is a
token then, but it has no text.
-/

namespace QuerySync.Json

/-! ## Strings -/

/-- What a string is written with: characters, and escapes that give a UTF-16 unit. -/
inductive Piece where
  /-- A character. -/
  | char (c : Char)
  /-- A UTF-16 unit. -/
  | unit (n : Nat)
deriving DecidableEq, Repr

/-- The character of a pair of UTF-16 units. -/
def pairChar (high low : Nat) : Char := .ofNat (0x10000 + (high - 0xD800) * 0x400 + (low - 0xDC00))

/-- Whether a unit is the first half of a pair. -/
def isHigh (n : Nat) : Bool := 0xD800 ≤ n && n ≤ 0xDBFF

/-- Whether a unit is the second half of a pair. -/
def isLow (n : Nat) : Bool := 0xDC00 ≤ n && n ≤ 0xDFFF

/-- The characters of a list of pieces, if every half of a pair has its other half. -/
def pieceChars? : List Piece → Option (List Char)
  | [] => some []
  | .char c :: rest => (pieceChars? rest).map (c :: ·)
  | .unit high :: .unit low :: rest =>
    if isHigh high then
      if isLow low then (pieceChars? rest).map (pairChar high low :: ·) else none
    else if isLow high then none
    else (pieceChars? (.unit low :: rest)).map (Char.ofNat high :: ·)
  | .unit n :: rest =>
    if isHigh n || isLow n then none else (pieceChars? rest).map (Char.ofNat n :: ·)

/-- The character of an escape of two characters. -/
def escaped? : Char → Option Char
  | '"' => some '"'
  | '\\' => some '\\'
  | '/' => some '/'
  | 'b' => some '\x08'
  | 'f' => some '\x0c'
  | 'n' => some '\n'
  | 'r' => some '\r'
  | 't' => some '\t'
  | _ => none

/-- The value of a hexadecimal digit of either case. -/
def hexValue? (c : Char) : Option Nat :=
  if c.isDigit then some (c.toNat - 48)
  else if 'a' ≤ c ∧ c ≤ 'f' then some (c.toNat - 87)
  else if 'A' ≤ c ∧ c ≤ 'F' then some (c.toNat - 55)
  else none

/-! ## Words -/

/-- Whether nothing or the exponent of a number follows. -/
def isExponent : List Char → Bool
  | [] => true
  | e :: '+' :: digits | e :: '-' :: digits | e :: digits =>
    (e = 'e' || e = 'E') && !digits.isEmpty && digits.all Char.isDigit

/-- Whether nothing or the fraction and the exponent of a number follow. -/
def isFraction : List Char → Bool
  | '.' :: rest =>
    !(rest.takeWhile Char.isDigit).isEmpty && isExponent (rest.dropWhile Char.isDigit)
  | rest => isExponent rest

/-- Whether a word is a number without a sign.  Its whole part does not begin with a
zero, unless it is zero. -/
def isUnsigned (word : List Char) : Bool :=
  let whole := word.takeWhile Char.isDigit
  (whole = ['0'] || (!whole.isEmpty && whole.head? != some '0')) &&
    isFraction (word.dropWhile Char.isDigit)

/-- Whether a word is a number. -/
def isNumber : List Char → Bool
  | '-' :: rest => isUnsigned rest
  | word => isUnsigned word

/-- Whether a character is part of a word. -/
def isWordChar (c : Char) : Bool := c.isAlphanum || c = '-' || c = '+' || c = '.'

/-! ## Tokens -/

/-- A token. -/
inductive Token where
  /-- An opening brace. -/
  | openBrace
  /-- A closing brace. -/
  | closeBrace
  /-- An opening bracket. -/
  | openBracket
  /-- A closing bracket. -/
  | closeBracket
  /-- A colon. -/
  | colon
  /-- A comma. -/
  | comma
  /-- The name for nothing. -/
  | null
  /-- The name of a truth value. -/
  | bool (value : Bool)
  /-- A number, as it is written. -/
  | number (written : String)
  /-- A string, and its text if it has one. -/
  | string (text? : Option String)
deriving DecidableEq, Repr

/-- The token of a punctuation mark. -/
def Token.ofMark? : Char → Option Token
  | '\x7b' => some .openBrace
  | '\x7d' => some .closeBrace
  | '[' => some .openBracket
  | ']' => some .closeBracket
  | ':' => some .colon
  | ',' => some .comma
  | _ => none

/-- The token of a word. -/
def Token.ofWord? (word : List Char) : Option Token :=
  if word = "null".toList then some .null
  else if word = "true".toList then some (.bool true)
  else if word = "false".toList then some (.bool false)
  else if isNumber word then some (.number (String.ofList word))
  else none

/-! ## The lexer -/

/-- What the lexer is in the middle of.  Lists have their newest element first. -/
inductive Lexer.Mode where
  /-- Nothing. -/
  | between
  /-- A word. -/
  | word (chars : List Char)
  /-- A string. -/
  | string (pieces : List Piece)
  /-- An escape of a string. -/
  | escape (pieces : List Piece)
  /-- The four hexadecimal digits of an escape, with the number read and its digits. -/
  | unit (pieces : List Piece) (value digits : Nat)
deriving DecidableEq, Repr

/-- What was read so far: the tokens, newest first, and what is in the middle. -/
structure Lexer where
  /-- The tokens, newest first. -/
  tokens : List Token := []
  /-- What is in the middle. -/
  mode : Lexer.Mode := .between
deriving DecidableEq, Repr

namespace Lexer

/-- Reads a character between tokens. -/
def begin (tokens : List Token) (c : Char) : Option Lexer :=
  if c = ' ' || c = '\t' || c = '\n' || c = '\r' then some { tokens }
  else if c = '"' then some { tokens, mode := .string [] }
  else if isWordChar c then some { tokens, mode := .word [c] }
  else (Token.ofMark? c).map fun token => { tokens := token :: tokens }

/-- Ends a word. -/
def endWord (tokens : List Token) (chars : List Char) : Option (List Token) :=
  (Token.ofWord? chars.reverse).map (· :: tokens)

/-- Reads a character. -/
def step (lexer : Lexer) (c : Char) : Option Lexer :=
  let tokens := lexer.tokens
  match lexer.mode with
  | .between => begin tokens c
  | .word chars =>
    if isWordChar c then some { tokens, mode := .word (c :: chars) }
    else (endWord tokens chars).bind fun tokens => begin tokens c
  | .string pieces =>
    if c = '"' then
      some { tokens := .string ((pieceChars? pieces.reverse).map String.ofList) :: tokens }
    else if c = '\\' then some { tokens, mode := .escape pieces }
    else if c.toNat < 0x20 then none
    else some { tokens, mode := .string (.char c :: pieces) }
  | .escape pieces =>
    if c = 'u' then some { tokens, mode := .unit pieces 0 0 }
    else (escaped? c).map fun c => { tokens, mode := .string (.char c :: pieces) }
  | .unit pieces value digits =>
    (hexValue? c).map fun digit =>
      if digits = 3 then { tokens, mode := .string (.unit (16 * value + digit) :: pieces) }
      else { tokens, mode := .unit pieces (16 * value + digit) (digits + 1) }

/-- The tokens at the end of the text, in order. -/
def finish (lexer : Lexer) : Option (List Token) :=
  match lexer.mode with
  | .between => some lexer.tokens.reverse
  | .word chars => (endWord lexer.tokens chars).map List.reverse
  | .string _ | .escape _ | .unit _ _ _ => none

end Lexer

/-- The tokens of a text. -/
def tokens? (text : String) : Option (List Token) :=
  (text.toList.foldlM Lexer.step {}).bind Lexer.finish

end QuerySync.Json
