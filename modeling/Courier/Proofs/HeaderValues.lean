import Courier.Http.Headers
import Mathlib.Data.List.Nodup

/-! # Headers as a map from names to values

Every operation on headers is described by the values that each name has afterwards, which the place
of an entry does not change: removing a name moves another entry, yet no other name gains or loses a
value. Extending no headers by others gives these others, entry for entry.
-/

namespace Courier.Headers

/-! ## Entries -/

theorem find?_eq_some_iff {entries : List Entry} (nodup : (entries.map (·.name)).Nodup)
    {name : HeaderName} {entry : Entry} :
    entries.find? (·.name = name) = some entry ↔ entry ∈ entries ∧ entry.name = name := by
  induction entries with
  | nil => simp
  | cons head rest ih =>
    obtain ⟨fresh, later⟩ := List.nodup_cons.mp nodup
    by_cases same : head.name = name
    · rw [List.find?_cons_of_pos (by simpa using same)]
      constructor
      · rintro ⟨⟩
        exact ⟨List.mem_cons_self .., same⟩
      · rintro ⟨member, named⟩
        rcases List.mem_cons.mp member with rfl | member
        · rfl
        · exact absurd (List.mem_map.mpr ⟨entry, member, named.trans same.symm⟩) fresh
    · rw [List.find?_cons_of_neg (by simpa using same), ih later]
      constructor
      · exact fun ⟨member, named⟩ => ⟨List.mem_cons_of_mem _ member, named⟩
      · rintro ⟨member, named⟩
        rcases List.mem_cons.mp member with rfl | member
        · exact absurd named same
        · exact ⟨member, named⟩

private theorem find?_eq_none_iff {entries : List Entry} {name : HeaderName} :
    entries.find? (·.name = name) = none ↔ ∀ entry ∈ entries, entry.name ≠ name := by
  simp only [List.find?_eq_none, decide_eq_true_eq, ne_eq]

private theorem hasName_eq_false_iff {entries : List Entry} {name : HeaderName} :
    hasName entries name = false ↔ ∀ entry ∈ entries, entry.name ≠ name := by
  rw [Bool.eq_false_iff, ne_eq, hasName_iff, List.mem_map]
  constructor
  · exact fun absent entry member same => absent ⟨entry, member, same⟩
  · rintro apart ⟨entry, member, same⟩
    exact apart entry member same

/-- Two lists with the same entries of a name agree on what is found under it. -/
private theorem find?_congr {entries others : List Entry} (nodup : (entries.map (·.name)).Nodup)
    (nodup' : (others.map (·.name)).Nodup) {name : HeaderName}
    (same : ∀ entry : Entry, entry.name = name → (entry ∈ entries ↔ entry ∈ others)) :
    entries.find? (·.name = name) = others.find? (·.name = name) := by
  apply Option.ext
  intro entry
  rw [find?_eq_some_iff nodup, find?_eq_some_iff nodup']
  constructor
  · exact fun ⟨member, named⟩ => ⟨(same entry named).mp member, named⟩
  · exact fun ⟨member, named⟩ => ⟨(same entry named).mpr member, named⟩

/-- The entries around one that is removed are those of the other names. -/
theorem mem_without {entries : List Entry} (nodup : (entries.map (·.name)).Nodup)
    {name : HeaderName} {entry : Entry} :
    entry ∈ without entries name ↔ entry ∈ entries ∧ entry.name ≠ name := by
  cases present : hasName entries name with
  | true =>
    obtain ⟨removed, named, split⟩ := entries_eq_around present
    rw [(without_perm present).mem_iff]
    rw [split, List.map_append, List.map_cons, named] at nodup
    have away := (List.nodup_middle.mp nodup).notMem
    have other : ∀ entry ∈ (around entries name).1 ++ (around entries name).2,
        entry.name ≠ name := by
      intro entry member same
      apply away
      rw [← List.map_append]
      exact List.mem_map.mpr ⟨entry, member, same⟩
    constructor
    · intro member
      refine ⟨?_, other entry member⟩
      rw [split, List.mem_append, List.mem_cons]
      rcases List.mem_append.mp member with member | member
      · exact .inl member
      · exact .inr (.inr member)
    · rintro ⟨member, apart⟩
      rw [split, List.mem_append, List.mem_cons] at member
      rcases member with member | rfl | member
      · exact List.mem_append_left _ member
      · exact absurd named apart
      · exact List.mem_append_right _ member
  | false =>
    have absent := hasName_eq_false_iff.mp present
    simp only [without, present, Bool.false_eq_true, ↓reduceIte]
    exact ⟨fun member => ⟨member, absent entry member⟩, fun both => both.1⟩

/-- What is found after a change, which concerns the name of the fresh entry alone. -/
theorem find?_change (entries : List Entry) (fresh : Entry) (update : Entry → Entry)
    (name : HeaderName) :
    (change entries fresh update).find? (·.name = name) =
      if name = fresh.name then
        some ((entries.find? (·.name = name)).elim fresh
          fun entry => { update entry with name := entry.name })
      else entries.find? (·.name = name) := by
  unfold change
  cases present : hasName entries fresh.name with
  | true =>
    simp only [↓reduceIte, List.find?_map, Function.comp_def]
    have names : ∀ entry : Entry,
        (if entry.name = fresh.name then { update entry with name := entry.name } else entry).name =
          entry.name := by
      intro entry
      split <;> rfl
    simp only [names]
    cases found : entries.find? (·.name = name) with
    | none =>
      split
      · rename_i same
        obtain ⟨entry, member, named⟩ := List.mem_map.mp (hasName_iff.mp present)
        exact absurd (named.trans same.symm) (find?_eq_none_iff.mp found entry member)
      · rfl
    | some entry =>
      have named : entry.name = name := by simpa using List.find?_some found
      simp only [Option.map_some, Option.elim_some, named]
      split <;> rfl
  | false =>
    simp only [Bool.false_eq_true, ↓reduceIte, List.find?_append]
    split
    · rename_i same
      subst same
      have missing := find?_eq_none_iff.mpr (hasName_eq_false_iff.mp present)
      simp [missing]
    · rename_i apart
      have skipped : [fresh].find? (·.name = name) = none := by
        simpa using fun same => apart same.symm
      rw [skipped, Option.or_none]

/-! ## Values -/

theorem head?_values (headers : Headers) (name : HeaderName) :
    (headers.values name).head? = headers.first? name := by
  unfold values first?
  cases headers.find? name <;> rfl

/-- A name that is there has a value. -/
theorem contains_eq_false_iff {headers : Headers} {name : HeaderName} :
    headers.contains name = false ↔ headers.values name = [] := by
  rw [← List.head?_eq_none_iff, head?_values, contains, first?, Option.map_eq_none_iff,
    Option.isSome_eq_false_iff, Option.isNone_iff_eq_none]

/-- A value is appended to those of its name. -/
theorem values_append (headers : Headers) (name other : HeaderName) (value : HeaderValue) :
    (headers.append name value).values other =
      if other = name then headers.values name ++ [value] else headers.values other := by
  unfold values find? append
  rw [find?_change]
  split
  · rename_i same
    subst same
    cases headers.entries.find? (·.name = other) with
    | none => rfl
    | some entry => simp [Entry.values]
  · rfl

/-- An entry that is put has the only values of its name. -/
theorem values_put (headers : Headers) (entry : Entry) (other : HeaderName) :
    (headers.put entry).values other =
      if other = entry.name then entry.values else headers.values other := by
  unfold values find? put
  rw [find?_change]
  split
  · rename_i same
    subst same
    cases headers.entries.find? (·.name = entry.name) <;> rfl
  · rfl

/-- A value that is inserted is the only one of its name. -/
theorem values_insert (headers : Headers) (name other : HeaderName) (value : HeaderValue) :
    (headers.insert name value).values other =
      if other = name then [value] else headers.values other :=
  headers.values_put ⟨name, value, []⟩ other

/-- Without a name, the others keep their values. -/
theorem values_remove (headers : Headers) (name other : HeaderName) :
    (headers.remove name).values other = if other = name then [] else headers.values other := by
  unfold values find? remove
  split
  · rename_i same
    subst same
    have missing : (without headers.entries other).find? (·.name = other) = none :=
      find?_eq_none_iff.mpr fun _ member => ((mem_without headers.nodup).mp member).2
    rw [missing]
    rfl
  · rename_i apart
    rw [find?_congr (nodup_without name headers.nodup) headers.nodup]
    intro entry named
    rw [mem_without headers.nodup]
    exact ⟨fun both => both.1, fun member => ⟨member, fun same => apart (named.symm.trans same)⟩⟩

theorem values_removeAll (headers : Headers) (names : List HeaderName) (name : HeaderName) :
    (headers.removeAll names).values name = if name ∈ names then [] else headers.values name := by
  unfold removeAll
  induction names generalizing headers with
  | nil => simp
  | cons first rest ih =>
    rw [List.foldl_cons, ih, values_remove]
    by_cases same : name = first <;> by_cases later : name ∈ rest <;> simp [same, later]

/-! ## Extending -/

private theorem entries_foldl_put (others : List Entry) (headers : Headers)
    (nodup : (others.map (·.name)).Nodup)
    (fresh : ∀ entry ∈ others, hasName headers.entries entry.name = false) :
    (others.foldl put headers).entries = headers.entries ++ others := by
  induction others generalizing headers with
  | nil => simp
  | cons entry rest ih =>
    obtain ⟨apart, later⟩ := List.nodup_cons.mp nodup
    have placed : (headers.put entry).entries = headers.entries ++ [entry] := by
      simp [put, change, fresh entry (List.mem_cons_self ..)]
    rw [List.foldl_cons, ih _ later, placed, List.append_assoc, List.singleton_append]
    intro other member
    rw [placed, hasName_eq_false_iff]
    intro present inside same
    rcases List.mem_append.mp inside with earlier | last
    · have away := hasName_eq_false_iff.mp (fresh other (List.mem_cons_of_mem _ member))
      exact away present earlier same
    · rw [List.mem_singleton] at last
      exact apart (List.mem_map.mpr ⟨other, member, (last ▸ same).symm⟩)

/-- Headers are their own extension of none, with every entry in its place. -/
@[simp] theorem empty_extend (headers : Headers) : empty.extend headers = headers := by
  obtain ⟨entries, nodup⟩ := headers
  have same := entries_foldl_put entries empty nodup fun entry _ => rfl
  unfold extend
  rw [Headers.mk.injEq]
  exact same

/-! ## Pairs -/

/-- The pairs of a name hold its values in order. -/
theorem values_pairs (headers : Headers) (name : HeaderName) :
    (headers.pairs.filter (·.1 = name)).map (·.2) = headers.values name := by
  obtain ⟨entries, nodup⟩ := headers
  unfold pairs values find?
  dsimp only
  induction entries with
  | nil => rfl
  | cons head rest ih =>
    obtain ⟨fresh, later⟩ := List.nodup_cons.mp nodup
    rw [List.flatMap_cons, List.filter_append, List.map_append, ih later]
    by_cases same : head.name = name
    · have missing : rest.find? (·.name = name) = none := by
        rw [List.find?_eq_none]
        intro entry member
        have away : entry.name ≠ name :=
          fun named => fresh (List.mem_map.mpr ⟨entry, member, named.trans same.symm⟩)
        simpa using away
      rw [missing, List.find?_cons_of_pos (by simpa using same)]
      simp [same, List.filter_map, Function.comp_def]
    · rw [List.find?_cons_of_neg (by simpa using same)]
      simp [same, List.filter_map, Function.comp_def]

end Courier.Headers
