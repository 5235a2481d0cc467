import QuerySync.Text.Blank

/-!
# Statuses

A status is a text that somebody else chose, so it is compared after a trim and in
lower case (`normalize`).  Lower case is that of ASCII, other letters stay as they are.
-/

namespace QuerySync

/-- Things that may have a status. -/
class HasStatus (α : Type) where
  /-- The status, if it is known. -/
  status : α → Option String

namespace Status

/-- The form in which statuses are compared. -/
def normalize (text : String) : String :=
  String.ofList ((Text.trimChars text.toList).map Char.toLower)

end Status

/-- What is absent has no status. -/
instance {α : Type} [HasStatus α] : HasStatus (Option α) :=
  ⟨fun value? => value?.bind HasStatus.status⟩

end QuerySync
