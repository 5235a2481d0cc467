import QuerySync.Json.Token

/-!
# JSON values

The value of a JSON text.  Fields keep their order and their repetitions, and a
number keeps the way it is written, since what they mean is decided where a value is
decoded.

Tokens are read one by one, with the list of the values that are open around them,
so that nesting has no limit.
-/

namespace QuerySync.Json

/-- A value.  A string and the name of a field may have no text. -/
inductive Value where
  /-- Nothing. -/
  | null
  /-- A truth value. -/
  | bool (value : Bool)
  /-- A number, as it is written. -/
  | number (written : String)
  /-- A string. -/
  | string (text? : Option String)
  /-- An array. -/
  | array (items : List Value)
  /-- An object. -/
  | object (fields : List (Option String × Value))
deriving Repr

/-- A value that is open around the place where the reader is.  Lists have their
newest element first. -/
inductive Frame where
  /-- An array with the items before this one. -/
  | array (items : List Value)
  /-- An object with the fields before this one, and the name of this one. -/
  | object (fields : List (Option String × Value)) (name : Option String)
deriving Repr

/-- What the reader has read. -/
inductive Reader where
  /-- Everything up to a value. -/
  | beforeValue (outer : List Frame)
  /-- The beginning of an array. -/
  | openedArray (outer : List Frame)
  /-- The beginning of an object. -/
  | openedObject (outer : List Frame)
  /-- The fields of an object and a comma. -/
  | beforeName (outer : List Frame) (fields : List (Option String × Value))
  /-- The fields of an object and the name of the next one. -/
  | beforeColon (outer : List Frame) (fields : List (Option String × Value)) (name : Option String)
  /-- A value. -/
  | complete (outer : List Frame) (value : Value)
deriving Repr

namespace Reader

/-- Reads the first token of a value. -/
def begin (outer : List Frame) : Token → Option Reader
  | .openBrace => some (openedObject outer)
  | .openBracket => some (openedArray outer)
  | .null => some (complete outer .null)
  | .bool value => some (complete outer (.bool value))
  | .number written => some (complete outer (.number written))
  | .string text? => some (complete outer (.string text?))
  | .closeBrace | .closeBracket | .colon | .comma => none

/-- Reads a token. -/
def step : Reader → Token → Option Reader
  | beforeValue outer, token => begin outer token
  | openedArray outer, .closeBracket => some (complete outer (.array []))
  | openedArray outer, token => begin (.array [] :: outer) token
  | openedObject outer, .closeBrace => some (complete outer (.object []))
  | openedObject outer, .string name => some (beforeColon outer [] name)
  | beforeName outer fields, .string name => some (beforeColon outer fields name)
  | beforeColon outer fields name, .colon => some (beforeValue (.object fields name :: outer))
  | complete (.array items :: outer) last, .comma =>
    some (beforeValue (.array (last :: items) :: outer))
  | complete (.array items :: outer) last, .closeBracket =>
    some (complete outer (.array (last :: items).reverse))
  | complete (.object fields name :: outer) last, .comma =>
    some (beforeName outer ((name, last) :: fields))
  | complete (.object fields name :: outer) last, .closeBrace =>
    some (complete outer (.object ((name, last) :: fields).reverse))
  | _, _ => none

/-- The value that was read, if it is complete and nothing is open around it. -/
def finish : Reader → Option Value
  | complete [] value => some value
  | _ => none

end Reader

/-- The value of a list of tokens. -/
def Value.ofTokens? (tokens : List Token) : Option Value :=
  (tokens.foldlM Reader.step (.beforeValue [])).bind Reader.finish

/-- The value of a JSON text. -/
def Value.ofText? (text : String) : Option Value := (tokens? text).bind Value.ofTokens?

end QuerySync.Json
