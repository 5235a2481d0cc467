/-!
# Maps with text keys

A `KeyMap` is a finite map from texts to values, held as the list of its entries in
increasing order of keys.  Texts are compared code point by code point, so the
order of the entries is that of the bytes of their keys in UTF-8.

The order is part of the type, so two maps with the same look-ups are equal
(`ext`).  Each operation has one lemma that says what it does to look-up:
`get?_insert`, `get?_filterMap`, `get?_mapValues`, `get?_filterKeys` and `get?_erase`.
-/

namespace QuerySync

/-- A finite map from texts to values, its entries in increasing order of keys. -/
structure KeyMap (α : Type) where
  /-- The entries, by increasing key. -/
  entries : List (String × α)
  /-- Keys increase strictly, so no key occurs twice. -/
  sorted : entries.Pairwise fun x y => x.1 < y.1
deriving DecidableEq, Repr

namespace KeyMap

variable {α β : Type}

/-! ## Looking up and changing lists of entries -/

/-- The value of the first entry for a key. -/
def lookup (key : String) : List (String × α) → Option α
  | [] => none
  | (k, value) :: rest => if k = key then some value else lookup key rest

/-- Puts an entry at its place in an increasing list, in the place of an entry
for the same key. -/
def put (key : String) (value : α) : List (String × α) → List (String × α)
  | [] => [(key, value)]
  | (k, old) :: rest =>
    if key < k then (key, value) :: (k, old) :: rest
    else if k = key then (key, value) :: rest
    else (k, old) :: put key value rest

theorem eq_or_mem_of_mem_put {key : String} {value : α} {entry : String × α}
    {entries : List (String × α)} (member : entry ∈ put key value entries) :
    entry = (key, value) ∨ entry ∈ entries := by
  induction entries with
  | nil => simpa [put] using member
  | cons head rest induction =>
    simp only [put] at member
    split at member
    · simpa using member
    · split at member
      · rcases List.mem_cons.1 member with same | inRest
        · exact .inl same
        · exact .inr (.tail _ inRest)
      · rcases List.mem_cons.1 member with same | inRest
        · exact .inr (same ▸ .head _)
        · exact (induction inRest).imp id (.tail _)

/-- Of two texts, one is smaller or they are equal. -/
theorem lt_of_not_lt_of_ne {a b : String} (notLess : ¬ a < b) (different : b ≠ a) : b < a := by
  refine Decidable.byContradiction fun notGreater => different ?_
  exact String.le_antisymm notLess notGreater

/-- The entry goes where its key belongs, so the order stays. -/
theorem put_sorted (key : String) (value : α) {entries : List (String × α)}
    (sorted : entries.Pairwise fun x y => x.1 < y.1) :
    (put key value entries).Pairwise fun x y => x.1 < y.1 := by
  induction entries with
  | nil => exact .cons (by simp) .nil
  | cons head rest induction =>
    obtain ⟨before, restSorted⟩ := List.pairwise_cons.1 sorted
    simp only [put]
    split
    next less =>
      refine .cons (fun entry member => ?_) sorted
      rcases List.mem_cons.1 member with same | inRest
      · exact same ▸ less
      · exact String.lt_trans less (before entry inRest)
    next notLess =>
      split
      next same => exact .cons (fun entry member => same ▸ before entry member) restSorted
      next different =>
        refine .cons (fun entry member => ?_) (induction restSorted)
        rcases eq_or_mem_of_mem_put member with same | inRest
        · exact same ▸ lt_of_not_lt_of_ne notLess different
        · exact before entry inRest

/-- The key that is put is found, and every other is found as before. -/
theorem lookup_put (key : String) (value : α) (entries : List (String × α)) (k : String) :
    lookup k (put key value entries) = if key = k then some value else lookup k entries := by
  induction entries with
  | nil => rfl
  | cons head rest induction =>
    simp only [put]
    split
    · rfl
    · split
      next same => simp only [lookup, same]; split <;> rfl
      next different =>
        simp only [lookup, induction]
        split
        next here => simp [← here, Ne.symm different]
        next => rfl

theorem lookup_eq_none_of_forall_ne {key : String} {entries : List (String × α)}
    (absent : ∀ entry ∈ entries, entry.1 ≠ key) : lookup key entries = none := by
  induction entries with
  | nil => rfl
  | cons head rest induction =>
    simp only [lookup, if_neg (absent head (.head _))]
    exact induction fun entry member => absent entry (.tail _ member)

/-- Changes or drops each value, knowing its key. -/
def filterMapEntry (f : String → α → Option β) (entry : String × α) : Option (String × β) :=
  (f entry.1 entry.2).map fun value => (entry.1, value)

theorem fst_of_filterMapEntry {f : String → α → Option β} {entry : String × α} {new : String × β}
    (kept : filterMapEntry f entry = some new) : new.1 = entry.1 := by
  obtain ⟨value, -, rfl⟩ := Option.map_eq_some_iff.1 kept
  rfl

/-- Dropping entries keeps the order of those that are left. -/
theorem filterMap_sorted (f : String → α → Option β) {entries : List (String × α)}
    (sorted : entries.Pairwise fun x y => x.1 < y.1) :
    (entries.filterMap (filterMapEntry f)).Pairwise fun x y => x.1 < y.1 := by
  refine List.Pairwise.filterMap _ (fun x y less x' atX y' atY => ?_) sorted
  rw [fst_of_filterMapEntry atX, fst_of_filterMapEntry atY]
  exact less

/-- Keys are distinct, so the entry that is found is the only one to be changed. -/
theorem lookup_filterMap (f : String → α → Option β) (key : String) {entries : List (String × α)}
    (sorted : entries.Pairwise fun x y => x.1 < y.1) :
    lookup key (entries.filterMap (filterMapEntry f)) = (lookup key entries).bind (f key) := by
  induction entries with
  | nil => rfl
  | cons head rest induction =>
    obtain ⟨before, restSorted⟩ := List.pairwise_cons.1 sorted
    have induction := induction restSorted
    by_cases here : head.1 = key
    · subst here
      have absent : lookup head.1 rest = none :=
        lookup_eq_none_of_forall_ne fun entry member equal =>
          String.lt_irrefl head.1 (equal ▸ before entry member)
      rw [absent] at induction
      cases result : f head.1 head.2 <;>
        simp [lookup, filterMapEntry, result, induction]
    · cases result : f head.1 head.2 <;>
        simp [lookup, filterMapEntry, result, here, induction]

/-- Increasing lists with the same look-ups are equal: the head of each is the
least key that the other holds. -/
theorem eq_of_lookup_eq : ∀ {left right : List (String × α)},
    (left.Pairwise fun x y => x.1 < y.1) → (right.Pairwise fun x y => x.1 < y.1) →
    (∀ key, lookup key left = lookup key right) → left = right
  | [], [], _, _, _ => rfl
  | [], head :: _, _, _, same => by simpa [lookup] using same head.1
  | head :: _, [], _, _, same => by simpa [lookup] using same head.1
  | (k, value) :: rest, (k', value') :: rest', leftSorted, rightSorted, same => by
    obtain ⟨before, restSorted⟩ := List.pairwise_cons.1 leftSorted
    obtain ⟨before', restSorted'⟩ := List.pairwise_cons.1 rightSorted
    have absent : lookup k rest = none :=
      lookup_eq_none_of_forall_ne fun entry member equal =>
        String.lt_irrefl k (equal ▸ before entry member)
    have absent' : lookup k' rest' = none :=
      lookup_eq_none_of_forall_ne fun entry member equal =>
        String.lt_irrefl k' (equal ▸ before' entry member)
    -- If the heads differed, each would lie strictly before the other.
    have keys : k = k' := by
      refine Decidable.byContradiction fun different => ?_
      have atLeft := same k
      have atRight := same k'
      simp only [lookup, if_true, if_neg different, if_neg (Ne.symm different)] at atLeft atRight
      have less : k' < k := by
        refine Decidable.byContradiction fun notLess => ?_
        have none' : lookup k rest' = none :=
          lookup_eq_none_of_forall_ne fun entry member equal =>
            notLess (equal ▸ before' entry member)
        exact nomatch atLeft.trans none'
      have less' : k < k' := by
        refine Decidable.byContradiction fun notLess => ?_
        have none : lookup k' rest = none :=
          lookup_eq_none_of_forall_ne fun entry member equal =>
            notLess (equal ▸ before entry member)
        exact nomatch atRight.symm.trans none
      exact String.lt_asymm less less'
    subst keys
    have values : value = value' := by simpa [lookup] using same k
    have rests : rest = rest' := eq_of_lookup_eq restSorted restSorted' fun key => by
      by_cases here : k = key
      · subst here; rw [absent, absent']
      · simpa [lookup, here] using same key
    rw [values, rests]

/-! ## Operations -/

/-- The map without entries. -/
def empty : KeyMap α := ⟨[], .nil⟩

instance : EmptyCollection (KeyMap α) := ⟨empty⟩

instance : Inhabited (KeyMap α) := ⟨empty⟩

/-- The value for a key. -/
def get? (m : KeyMap α) (key : String) : Option α := lookup key m.entries

/-- Whether a key has a value. -/
def contains (m : KeyMap α) (key : String) : Bool := (m.get? key).isSome

/-- The number of entries. -/
def size (m : KeyMap α) : Nat := m.entries.length

/-- Whether there are no entries. -/
def isEmpty (m : KeyMap α) : Bool := m.entries.isEmpty

/-- The keys, in increasing order. -/
def keys (m : KeyMap α) : List String := m.entries.map (·.1)

/-- Gives a key a value, in the place of its old one. -/
def insert (m : KeyMap α) (key : String) (value : α) : KeyMap α :=
  ⟨put key value m.entries, put_sorted key value m.sorted⟩

/-- Changes or drops each value, knowing its key. -/
def filterMap (m : KeyMap α) (f : String → α → Option β) : KeyMap β :=
  ⟨m.entries.filterMap (filterMapEntry f), filterMap_sorted f m.sorted⟩

/-- Changes each value. -/
def mapValues (m : KeyMap α) (f : α → β) : KeyMap β := m.filterMap fun _ value => some (f value)

/-- Keeps the entries whose key passes a test. -/
def filterKeys (m : KeyMap α) (keep : String → Bool) : KeyMap α :=
  m.filterMap fun key value => if keep key then some value else none

/-- Removes a key. -/
def erase (m : KeyMap α) (key : String) : KeyMap α := m.filterKeys (· != key)

/-- Gives each key of a list its value, from left to right.  Of several entries
for one key the last one counts. -/
def insertAll (m : KeyMap α) (entries : List (String × α)) : KeyMap α :=
  entries.foldl (fun m entry => m.insert entry.1 entry.2) m

/-- The map of a list of entries.  Of several entries for one key the last one counts. -/
def ofList (entries : List (String × α)) : KeyMap α := empty.insertAll entries

/-! ## What each operation does to look-up -/

/-- Two maps with the same values are the same: the order of the entries is that of their keys. -/
@[ext] theorem ext {m n : KeyMap α} (same : ∀ key, m.get? key = n.get? key) : m = n := by
  cases m with
  | mk entries sorted =>
    cases n with
    | mk entries' sorted' =>
      have := eq_of_lookup_eq sorted sorted' same
      subst this
      rfl

@[simp, grind =] theorem get?_empty (key : String) : (empty : KeyMap α).get? key = none := rfl

@[simp, grind =] theorem get?_insert (m : KeyMap α) (key : String) (value : α) (k : String) :
    (m.insert key value).get? k = if key = k then some value else m.get? k :=
  lookup_put key value m.entries k

@[simp, grind =] theorem get?_filterMap (m : KeyMap α) (f : String → α → Option β) (k : String) :
    (m.filterMap f).get? k = (m.get? k).bind (f k) :=
  lookup_filterMap f k m.sorted

@[simp, grind =] theorem get?_mapValues (m : KeyMap α) (f : α → β) (k : String) :
    (m.mapValues f).get? k = (m.get? k).map f := by
  rw [mapValues, get?_filterMap]
  cases m.get? k <;> rfl

@[simp, grind =] theorem get?_filterKeys (m : KeyMap α) (keep : String → Bool) (k : String) :
    (m.filterKeys keep).get? k = if keep k then m.get? k else none := by
  rw [filterKeys, get?_filterMap]
  cases m.get? k <;> cases keep k <;> rfl

@[simp, grind =] theorem get?_erase (m : KeyMap α) (key k : String) :
    (m.erase key).get? k = if k = key then none else m.get? k := by
  simp only [erase, get?_filterKeys, bne_iff_ne]
  by_cases same : k = key <;> simp [same]

theorem get?_of_mem_entries {m : KeyMap α} {key : String} {value : α}
    (member : (key, value) ∈ m.entries) : m.get? key = some value := by
  obtain ⟨entries, sorted⟩ := m
  simp only [get?]
  induction entries with
  | nil => exact nomatch member
  | cons head rest induction =>
    obtain ⟨before, restSorted⟩ := List.pairwise_cons.1 sorted
    rcases List.mem_cons.1 member with here | inRest
    · simp [lookup, ← here]
    · have later := before (key, value) inRest
      have different : head.1 ≠ key := fun same => String.lt_irrefl key (same ▸ later)
      rw [lookup, if_neg different]
      exact induction restSorted inRest

theorem mem_of_lookup {key : String} {value : α} {entries : List (String × α)}
    (found : lookup key entries = some value) : (key, value) ∈ entries := by
  induction entries with
  | nil => cases found
  | cons head rest induction =>
    rw [lookup] at found
    split at found
    next here =>
      cases found
      exact here ▸ .head _
    next => exact .tail _ (induction found)

/-- What is found is an entry. -/
theorem mem_entries_of_get? {m : KeyMap α} {key : String} {value : α}
    (found : m.get? key = some value) : (key, value) ∈ m.entries :=
  mem_of_lookup found

/-! ## Look-up after several entries -/

@[simp] theorem insertAll_nil (m : KeyMap α) : m.insertAll [] = m := rfl

theorem insertAll_cons (m : KeyMap α) (entry : String × α) (entries : List (String × α)) :
    m.insertAll (entry :: entries) = (m.insert entry.1 entry.2).insertAll entries := rfl

theorem insertAll_append (m : KeyMap α) (first second : List (String × α)) :
    m.insertAll (first ++ second) = (m.insertAll first).insertAll second := by
  simp only [insertAll, List.foldl_append]

/-- Entries under other keys change nothing. -/
theorem get?_insertAll_of_forall_ne {key : String} {entries : List (String × α)}
    (absent : ∀ entry ∈ entries, entry.1 ≠ key) (m : KeyMap α) :
    (m.insertAll entries).get? key = m.get? key := by
  induction entries generalizing m with
  | nil => rfl
  | cons head rest induction =>
    rw [insertAll_cons, induction (fun entry member => absent entry (.tail _ member)),
      get?_insert, if_neg (absent head (.head _))]

/-- The entries of a map, each under its own key, take the place of those that were there. -/
theorem get?_insertAll_entries (m : KeyMap α) (n : KeyMap β) (f : String → β → α) (key : String) :
    (m.insertAll (n.entries.map fun entry => (entry.1, f entry.1 entry.2))).get? key =
      ((n.get? key).map (f key)).or (m.get? key) := by
  obtain ⟨entries, sorted⟩ := n
  simp only [get?]
  induction entries generalizing m with
  | nil => rfl
  | cons head rest induction =>
    obtain ⟨before, restSorted⟩ := List.pairwise_cons.1 sorted
    have laterKeys := induction (m.insert head.1 (f head.1 head.2)) restSorted
    rw [List.map_cons, insertAll_cons, laterKeys]
    by_cases here : head.1 = key
    · subst here
      have absent : lookup head.1 rest = none :=
        lookup_eq_none_of_forall_ne fun entry member equal =>
          String.lt_irrefl head.1 (equal ▸ before entry member)
      have inserted := get?_insert m head.1 (f head.1 head.2) head.1
      simp only [get?] at inserted
      simp [lookup, absent, inserted]
    · have inserted := get?_insert m head.1 (f head.1 head.2) key
      simp only [get?] at inserted
      simp [lookup, here, inserted]

example : ((empty.insert "b" 2).insert "a" 1).insert "b" 3 = ofList [("a", 1), ("b", 3)] := by
  decide

end KeyMap

end QuerySync
