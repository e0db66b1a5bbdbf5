import Courier.Http.Header

/-! # Lists of headers

Headers are kept as a list of entries, one for each name, and every entry has at least one value. A
new name goes last, a name that is present keeps its place, and when a name is removed the last entry
moves into its place.
-/

namespace Courier

/-- A header name with its values. -/
structure Headers.Entry where
  name : HeaderName
  first : HeaderValue
  more : List HeaderValue
  deriving DecidableEq, Repr

namespace Headers.Entry

/-- The values in order. -/
def values (entry : Entry) : List HeaderValue := entry.first :: entry.more

end Headers.Entry

/-- Headers in order, one entry for each name. -/
structure Headers where
  entries : List Headers.Entry
  nodup : (entries.map (·.name)).Nodup
  deriving DecidableEq, Repr

namespace Headers

/-- No headers. -/
def empty : Headers := ⟨[], List.nodup_nil⟩

instance : Inhabited Headers := ⟨empty⟩

/-- The names in order. -/
def names (headers : Headers) : List HeaderName := headers.entries.map (·.name)

/-- The entry of a name. -/
def find? (headers : Headers) (name : HeaderName) : Option Entry :=
  headers.entries.find? (·.name = name)

/-- The values of a name, in order. -/
def values (headers : Headers) (name : HeaderName) : List HeaderValue :=
  (headers.find? name).elim [] Entry.values

/-- The first value of a name. -/
def first? (headers : Headers) (name : HeaderName) : Option HeaderValue :=
  (headers.find? name).map (·.first)

/-- Whether there is a value of a name. -/
def contains (headers : Headers) (name : HeaderName) : Bool := (headers.find? name).isSome

/-- Every name with every one of its values. -/
def pairs (headers : Headers) : List (HeaderName × HeaderValue) :=
  headers.entries.flatMap fun entry => entry.values.map fun value => (entry.name, value)

/-! ## Entries -/

/-- Whether an entry of a name is among the entries. -/
def hasName (entries : List Entry) (name : HeaderName) : Bool := entries.any (·.name = name)

theorem hasName_iff {entries : List Entry} {name : HeaderName} :
    hasName entries name = true ↔ name ∈ entries.map (·.name) := by
  simp [hasName]

/-- The entries with the entry of a name changed, or with a new entry at the end. -/
def change (entries : List Entry) (fresh : Entry) (update : Entry → Entry) : List Entry :=
  if hasName entries fresh.name then
    entries.map fun entry =>
      if entry.name = fresh.name then { update entry with name := entry.name } else entry
  else entries ++ [fresh]

/-- A new name goes last, and a name that is present keeps its place. -/
theorem names_change (entries : List Entry) (fresh : Entry) (update : Entry → Entry) :
    (change entries fresh update).map (·.name) =
      if hasName entries fresh.name then entries.map (·.name)
      else entries.map (·.name) ++ [fresh.name] := by
  unfold change
  split
  · rw [List.map_map]
    apply List.map_congr_left
    intro entry _
    simp only [Function.comp]
    split <;> rfl
  · simp

theorem nodup_change {entries : List Entry} (fresh : Entry) (update : Entry → Entry)
    (nodup : (entries.map (·.name)).Nodup) :
    ((change entries fresh update).map (·.name)).Nodup := by
  rw [names_change]
  split
  · exact nodup
  · rename_i absent
    rw [hasName_iff] at absent
    rw [List.nodup_append]
    refine ⟨nodup, by simp, ?_⟩
    intro name present other same
    rw [List.mem_singleton] at same
    rintro rfl
    exact absent (same ▸ present)

/-- The entries before the entry of a name, and those after it. -/
def around (entries : List Entry) (name : HeaderName) : List Entry × List Entry :=
  (entries.takeWhile (·.name ≠ name), (entries.dropWhile (·.name ≠ name)).drop 1)

/-- The entries without the entry of a name: the last one moves into its place. -/
def without (entries : List Entry) (name : HeaderName) : List Entry :=
  if hasName entries name then
    let (before, after) := around entries name
    before ++ after.getLast?.toList ++ after.dropLast
  else entries

/-- An entry that is present stands between those around it. -/
theorem entries_eq_around {entries : List Entry} {name : HeaderName}
    (present : hasName entries name = true) :
    ∃ entry, entry.name = name ∧
      entries = (around entries name).1 ++ entry :: (around entries name).2 := by
  induction entries with
  | nil => simp [hasName] at present
  | cons head rest ih =>
    by_cases same : head.name = name
    · exact ⟨head, same, by simp [around, same]⟩
    · have later : hasName rest name = true := by simpa [hasName, same] using present
      obtain ⟨entry, named, split⟩ := ih later
      refine ⟨entry, named, ?_⟩
      simpa [around, same] using split

/-- What is left is a rearrangement of the entries around the one that is removed. -/
theorem without_perm {entries : List Entry} {name : HeaderName}
    (present : hasName entries name = true) :
    (without entries name).Perm ((around entries name).1 ++ (around entries name).2) := by
  simp only [without, present, ↓reduceIte, List.append_assoc]
  apply List.Perm.append_left
  generalize (around entries name).2 = after
  cases after.eq_nil_or_concat with
  | inl none => simp [none]
  | inr some =>
    obtain ⟨front, last, rfl⟩ := some
    have moved : ([last] ++ front).Perm (front ++ [last]) := List.perm_append_comm
    simpa using moved

theorem nodup_without {entries : List Entry} (name : HeaderName)
    (nodup : (entries.map (·.name)).Nodup) : ((without entries name).map (·.name)).Nodup := by
  by_cases present : hasName entries name = true
  · obtain ⟨entry, _, split⟩ := entries_eq_around present
    rw [((without_perm present).map _).nodup_iff]
    rw [split, List.map_append, List.map_cons, List.nodup_append] at nodup
    rw [List.map_append, List.nodup_append]
    refine ⟨nodup.1, (List.nodup_cons.mp nodup.2.1).2, ?_⟩
    intro a inBefore b inAfter
    exact nodup.2.2 a inBefore b (List.mem_cons_of_mem _ inAfter)
  · simpa [without, present] using nodup

/-! ## Operations -/

/-- One more value of a name, after those it has. -/
def append (headers : Headers) (name : HeaderName) (value : HeaderValue) : Headers :=
  let update := fun (entry : Entry) => { entry with more := entry.more ++ [value] }
  ⟨change headers.entries ⟨name, value, []⟩ update, nodup_change _ _ headers.nodup⟩

/-- An entry in place of the one with its name, or at the end. -/
def put (headers : Headers) (entry : Entry) : Headers :=
  ⟨change headers.entries entry fun _ => entry, nodup_change _ _ headers.nodup⟩

/-- One value in place of all values of a name. -/
def insert (headers : Headers) (name : HeaderName) (value : HeaderValue) : Headers :=
  headers.put ⟨name, value, []⟩

/-- The headers without a name; the last entry moves into its place. -/
def remove (headers : Headers) (name : HeaderName) : Headers :=
  ⟨without headers.entries name, nodup_without name headers.nodup⟩

/-- The headers without some names, removed one after another. -/
def removeAll (headers : Headers) (names : List HeaderName) : Headers := names.foldl remove headers

/-- The headers with the entries of others, which replace those of the same name. -/
def extend (headers others : Headers) : Headers := others.entries.foldl put headers

/-- The headers that pairs make, each appended after those before it. -/
def ofPairs (pairs : List (HeaderName × HeaderValue)) : Headers :=
  pairs.foldl (fun headers pair => headers.append pair.1 pair.2) empty

end Headers

end Courier
