import QuerySync.Form.Pairs
import QuerySync.KeyMap

/-!
# Parameters of a location

The query part of a location is a form, and its parameters are the map of the
form's pairs.  Order and repetition of pairs are lost: of several pairs with one
name the last one counts, and writing puts the names in increasing order.
-/

namespace QuerySync

/-- The parameters of a location: texts by name. -/
abbrev Params := KeyMap String

namespace Params

/-- A text without its first question mark, if it begins with one. -/
def dropQuestionMark (text : String) : String :=
  match text.toList with
  | '?' :: rest => String.ofList rest
  | _ => text

/-- The parameters of a query text, with or without its question mark. -/
def parse (text : String) : Params := KeyMap.ofList (Form.read (dropQuestionMark text))

/-- The query text of parameters, without a question mark. -/
def toQueryString (params : Params) : String := Form.write params.entries

/-- The query part of a location: nothing at all, or a question mark and the query text. -/
def display (params : Params) : String :=
  if params.isEmpty then "" else "?" ++ params.toQueryString

end Params

end QuerySync
