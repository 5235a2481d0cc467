import QuerySync.Text.Blank

/-!
# Tokens in one text

Several tokens share a text with a comma between each two.  Reading trims each
part and drops the parts that are empty then, so a token is never empty, holds no
comma and begins and ends with a visible character (`IsToken`).

`tokens_join` says that reading takes writing back, and `isToken_of_mem_tokens`
that reading gives tokens only.
-/

namespace QuerySync.Text

/-! ## Reading and writing -/

/-- The tokens of a text, in the order of the text. -/
def tokens (text : String) : List String :=
  ((text.toList.splitOn ',').map fun part => String.ofList (trimChars part)).filter (· ≠ "")

/-- The tokens of a list of texts, in order. -/
def allTokens (texts : List String) : List String := texts.flatMap tokens

/-- One text for a list of tokens. -/
def joinTokens (values : List String) : String := ",".intercalate values

/-! ## Tokens -/

/-- A text that reading can give: it is not empty, holds no comma and is its own trim. -/
structure IsToken (text : String) : Prop where
  /-- A token has a character. -/
  ne_empty : text ≠ ""
  /-- A comma ends a token. -/
  no_comma : ',' ∉ text.toList
  /-- White space around a token is not part of it. -/
  trimmed : trim text = text

theorem dropWhile_of_head {chars : List Char} (head : ∀ c ∈ chars.head?, isSpace c = false) :
    chars.dropWhile isSpace = chars := by
  cases chars with
  | nil => rfl
  | cons c rest => simp [head c rfl]

theorem head?_dropWhile (chars : List Char) :
    ∀ c ∈ (chars.dropWhile isSpace).head?, isSpace c = false := by
  intro c member
  have := List.head?_dropWhile_not isSpace chars
  rw [Option.mem_def.1 member] at this
  simpa using this

/-- What is left of a list without white space at its end begins as the list does. -/
theorem head?_dropWhile_reverse {chars : List Char}
    (head : ∀ c ∈ chars.head?, isSpace c = false) :
    ∀ c ∈ ((chars.reverse.dropWhile isSpace).reverse).head?, isSpace c = false := by
  intro c member
  refine head c ?_
  obtain ⟨front, split⟩ := List.dropWhile_suffix (p := isSpace) (l := chars.reverse)
  have parts : chars = (chars.reverse.dropWhile isSpace).reverse ++ front.reverse := by
    rw [← List.reverse_append, split, List.reverse_reverse]
  rw [parts]
  cases kept : (chars.reverse.dropWhile isSpace).reverse with
  | nil => rw [kept] at member; exact nomatch member
  | cons d rest => rw [kept] at member; simpa using member

/-- Trimming twice is trimming once. -/
theorem trimChars_trimChars (chars : List Char) :
    trimChars (trimChars chars) = trimChars chars := by
  have front := head?_dropWhile_reverse (head?_dropWhile chars)
  have back := head?_dropWhile (chars.dropWhile isSpace).reverse
  simp only [trimChars]
  rw [dropWhile_of_head front, List.reverse_reverse, dropWhile_of_head back]

theorem mem_of_mem_trimChars {chars : List Char} {c : Char} (member : c ∈ trimChars chars) :
    c ∈ chars := by
  have member := List.mem_reverse.1 member
  have member := (List.dropWhile_suffix isSpace).subset member
  exact (List.dropWhile_suffix isSpace).subset (List.mem_reverse.1 member)

/-! ## Reading gives tokens, and takes writing back -/

/-- A comma separates, so no part has one. -/
theorem not_mem_of_mem_splitOn {chars part : List Char} (member : part ∈ chars.splitOn ',') :
    ',' ∉ part := by
  induction chars generalizing part with
  | nil => simp_all
  | cons c rest induction =>
    rw [List.splitOn_cons_eq_if_modifyHead] at member
    split at member
    · rcases List.mem_cons.1 member with rfl | inRest
      · simp
      · exact induction inRest
    next notComma =>
      cases parts : rest.splitOn ',' with
      | nil => simp [parts] at member
      | cons first others =>
        rw [parts, List.modifyHead_cons] at member
        rcases List.mem_cons.1 member with rfl | inOthers
        · intro comma
          rcases List.mem_cons.1 comma with here | inFirst
          · exact notComma (beq_iff_eq.2 here.symm)
          · exact induction (parts ▸ .head _) inFirst
        · exact induction (parts ▸ .tail _ inOthers)

/-- Every part that is read is a token. -/
theorem isToken_of_mem_tokens {text token : String} (member : token ∈ tokens text) :
    IsToken token := by
  simp only [tokens, List.mem_filter, List.mem_map, decide_eq_true_eq] at member
  obtain ⟨⟨part, inParts, rfl⟩, nonempty⟩ := member
  refine ⟨nonempty, fun comma => ?_, ?_⟩
  · rw [String.toList_ofList] at comma
    exact not_mem_of_mem_splitOn inParts (mem_of_mem_trimChars comma)
  · rw [trim, String.toList_ofList, trimChars_trimChars]

theorem isToken_of_mem_allTokens {texts : List String} {token : String}
    (member : token ∈ allTokens texts) : IsToken token := by
  obtain ⟨text, -, inText⟩ := List.mem_flatMap.1 member
  exact isToken_of_mem_tokens inText

/-- Reading takes writing back. -/
theorem tokens_join {values : List String} (all : ∀ value ∈ values, IsToken value) :
    tokens (joinTokens values) = values := by
  cases values with
  | nil => decide
  | cons first rest =>
    rw [tokens, joinTokens, String.toList_intercalate]
    have parts : ",".toList = [','] := rfl
    rw [parts, List.splitOn_intercalate ',' (by
      intro part member
      obtain ⟨value, inValues, rfl⟩ := List.mem_map.1 member
      exact (all value inValues).no_comma) (by simp), List.map_map]
    have same : (first :: rest).map ((fun part => String.ofList (trimChars part)) ∘ String.toList)
        = first :: rest :=
      (List.map_congr_left fun value member => (all value member).trimmed).trans (List.map_id _)
    rw [same, List.filter_eq_self]
    intro value member
    simpa using (all value member).ne_empty

/-- A token is read as itself. -/
theorem tokens_of_isToken {token : String} (isToken : IsToken token) : tokens token = [token] := by
  have all : ∀ value ∈ [token], IsToken value := by simpa using isToken
  simpa [joinTokens] using tokens_join all

/-- A list of tokens is what it reads as. -/
theorem allTokens_of_forall_isToken {values : List String} (all : ∀ value ∈ values, IsToken value) :
    allTokens values = values := by
  induction values with
  | nil => rfl
  | cons first rest induction =>
    rw [allTokens, List.flatMap_cons, tokens_of_isToken (all first (.head _))]
    exact congrArg (first :: ·) (induction fun value member => all value (.tail _ member))

example : tokens " running,, failed ," = ["running", "failed"] := by decide

end QuerySync.Text
