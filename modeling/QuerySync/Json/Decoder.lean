import QuerySync.Json.Value
import QuerySync.KeyMap
import QuerySync.Text.Numeral

/-!
# Decoding JSON values

A decoder gives a value of a domain type, or nothing.  Numbers are digits and
nothing else.  An object whose names are free is a map, in which the last of several
fields with one name counts.

A record has known fields.  It is an object, in which a known field occurs at most
once and other fields are ignored, or an array with the known fields in order
(`Fields.of?`).  A field of a record is required, or has a default, or is absent.
A field that may be absent must have its place in an array all the same.
-/

namespace QuerySync.Json

/-- A decoder of values. -/
abbrev Decoder (α : Type) := Value → Option α

namespace Decoder

variable {α : Type}

/-- A truth value. -/
def bool : Decoder Bool
  | .bool value => some value
  | _ => none

/-- A text. -/
def text : Decoder String
  | .string text? => text?
  | _ => none

/-- A number below a limit. -/
def natural (limit : Nat) : Decoder Nat
  | .number written => (Text.Numeral.ofDigits? written.toList).filter (· < limit)
  | _ => none

/-- A number of at most thirty-two bits. -/
def word32 : Decoder UInt32 := fun value => (natural UInt32.size value).map .ofNat

/-- A number of at most sixty-four bits. -/
def word64 : Decoder UInt64 := fun value => (natural UInt64.size value).map .ofNat

/-- A number of at most one hundred and twenty-eight bits. -/
def word128 : Decoder (BitVec 128) := fun value =>
  (natural (UInt64.size * UInt64.size) value).map (.ofNat 128)

/-- A value that may be null. -/
def nullable (decoder : Decoder α) : Decoder (Option α)
  | .null => some none
  | value => (decoder value).map some

/-- An array. -/
def list (decoder : Decoder α) : Decoder (List α)
  | .array items => items.mapM decoder
  | _ => none

/-- A field with any name. -/
def field (decoder : Decoder α) (field : Option String × Value) : Option (String × α) := do
  return (← field.1, ← decoder field.2)

/-- An object with any names.  The last of several fields with one name counts. -/
def map (decoder : Decoder α) : Decoder (KeyMap α)
  | .object fields => (fields.mapM (field decoder)).map KeyMap.ofList
  | _ => none

/-- One of several names: a text, or an object with the name for its only field and
nothing for its value. -/
def name (ofName? : String → Option α) : Decoder α
  | .string text? => text?.bind ofName?
  | .object [(text?, .null)] => text?.bind ofName?
  | _ => none

end Decoder

/-! ## Records -/

/-- The known fields of a record. -/
structure Fields where
  /-- Whether the fields are in an array. -/
  inArray : Bool
  /-- The fields that are there. -/
  present : List (String × Value)

namespace Fields

/-- The fields of an object, if every name is a text and no known name occurs twice. -/
def ofObject? (known : List String) (fields : List (Option String × Value)) : Option Fields := do
  let named ← fields.mapM fun field => field.1.map fun name => (name, field.2)
  let present := named.filter fun field => known.contains field.1
  if (present.map (·.1)).Nodup then some { inArray := false, present } else none

/-- The known fields of a record. -/
def of? (known : List String) : Value → Option Fields
  | .object fields => ofObject? known fields
  | .array items =>
    if items.length ≤ known.length then some { inArray := true, present := known.zip items }
    else none
  | _ => none

variable {α : Type}

/-- A field that has to be there. -/
def required (fields : Fields) (name : String) (decoder : Decoder α) : Option α :=
  (fields.present.lookup name).bind decoder

/-- A field with a default. -/
def orDefault (fields : Fields) (name : String) (decoder : Decoder α) (default : α) : Option α :=
  match fields.present.lookup name with
  | some value => decoder value
  | none => some default

/-- A field that may be null, and need not be there in an object. -/
def nullable (fields : Fields) (name : String) (decoder : Decoder α) : Option (Option α) :=
  if fields.inArray then fields.required name decoder.nullable
  else fields.orDefault name decoder.nullable none

end Fields

end QuerySync.Json
