/-!
# Tables in order of first insertion

A table maps distinct names to values and remembers the order in which its names
were first inserted. Putting a value under a name that is present replaces the
value and keeps the place; taking a name away closes the gap. Both operations
give back the value they displaced.

That names stay distinct is part of the type. The operations are defined on the
list of entries and lifted to tables by the lemma that says what happens to the
names.
-/

namespace SqlCondition

universe u
variable {α : Type u}

namespace Entries

/-- Put a value under a name: in place where the name occurs, at the end where it
does not. The first component is the value that stood there before. -/
def put (name : String) (value : α) : List (String × α) → Option α × List (String × α)
  | [] => (none, [(name, value)])
  | (other, old) :: rest =>
      if other = name then (some old, (other, value) :: rest)
      else
        let later := put name value rest
        (later.1, (other, old) :: later.2)

/-- Take a name away. The first component is the value that stood there before. -/
def take (name : String) : List (String × α) → Option α × List (String × α)
  | [] => (none, [])
  | (other, old) :: rest =>
      if other = name then (some old, rest)
      else
        let later := take name rest
        (later.1, (other, old) :: later.2)

/-- Putting keeps the names and their order; a new name comes last. So an entry stays where it
was when its value changes. -/
theorem names_put (name : String) (value : α) (entries : List (String × α)) :
    (put name value entries).2.map Prod.fst =
      if name ∈ entries.map Prod.fst then entries.map Prod.fst
      else entries.map Prod.fst ++ [name] := by
  induction entries with
  | nil => simp [put]
  | cons entry rest inductionHypothesis =>
    obtain ⟨other, old⟩ := entry
    by_cases same : other = name
    · simp [put, same]
    · have different : ¬ name = other := fun equal => same equal.symm
      simp only [put, same, if_false, List.map_cons, List.mem_cons, different, false_or,
        inductionHypothesis]
      split <;> simp

/-- Taking keeps the order of the entries that remain, so that distinct names stay distinct. -/
theorem take_sublist (name : String) (entries : List (String × α)) :
    (take name entries).2.Sublist entries := by
  induction entries with
  | nil => exact List.Sublist.refl _
  | cons entry rest inductionHypothesis =>
    obtain ⟨other, old⟩ := entry
    by_cases same : other = name
    · simp only [take, same, if_true]
      exact List.sublist_cons_self _ _
    · simp only [take, same, if_false]
      exact inductionHypothesis.cons_cons _

/-- A look-up compares the first name and then goes on. In this form it is read off both
branches at once. -/
theorem lookup_entry (asked other : String) (old : α) (rest : List (String × α)) :
    ((other, old) :: rest).lookup asked = if asked = other then some old else rest.lookup asked := by
  by_cases met : asked = other
  · simp [met]
  · have different : (asked == other) = false := by simpa using met
    simp [List.lookup_cons, different, met]

/-- Putting gives back what was found under the name before, or nothing for a new one. -/
theorem put_displaced (name : String) (value : α) (entries : List (String × α)) :
    (put name value entries).1 = entries.lookup name := by
  induction entries with
  | nil => rfl
  | cons entry rest inductionHypothesis =>
    obtain ⟨other, old⟩ := entry
    rw [lookup_entry]
    by_cases same : other = name
    · simp [put, same]
    · have different : ¬ name = other := fun equal => same equal.symm
      simp [put, same, different, inductionHypothesis]

/-- After putting, the value is found under its name, and under every other name
what was found there before. -/
theorem lookup_put (name asked : String) (value : α) (entries : List (String × α)) :
    (put name value entries).2.lookup asked =
      if asked = name then some value else entries.lookup asked := by
  induction entries with
  | nil => exact lookup_entry asked name value []
  | cons entry rest inductionHypothesis =>
    obtain ⟨other, old⟩ := entry
    by_cases same : other = name
    · simp only [put, same, if_true, lookup_entry]
      split <;> rfl
    · simp only [put, same, if_false, lookup_entry, inductionHypothesis]
      by_cases met : asked = other
      · have different : ¬ asked = name := fun equal => same (met.symm.trans equal)
        rw [if_pos met, if_neg different, if_pos met]
      · rw [if_neg met, if_neg met]

/-- Taking gives back what was found under the name before, or nothing where there was none. -/
theorem take_displaced (name : String) (entries : List (String × α)) :
    (take name entries).1 = entries.lookup name := by
  induction entries with
  | nil => rfl
  | cons entry rest inductionHypothesis =>
    obtain ⟨other, old⟩ := entry
    rw [lookup_entry]
    by_cases same : other = name
    · simp [take, same]
    · have different : ¬ name = other := fun equal => same equal.symm
      simp [take, same, different, inductionHypothesis]

/-- A new name with its value comes last, and no entry is touched. -/
theorem put_new (name : String) (value : α) (entries : List (String × α))
    (absent : name ∉ entries.map Prod.fst) :
    (put name value entries).2 = entries ++ [(name, value)] := by
  induction entries with
  | nil => rfl
  | cons entry rest inductionHypothesis =>
    obtain ⟨other, old⟩ := entry
    rw [List.map_cons, List.mem_cons, not_or] at absent
    have different : ¬ other = name := fun equal => absent.1 equal.symm
    simp only [put, different, if_false, inductionHypothesis absent.2, List.cons_append]

/-- Distinct names stay distinct when a value is put. This is what a table is built on. -/
theorem nodup_put (name : String) (value : α) (entries : List (String × α))
    (distinct : (entries.map Prod.fst).Nodup) :
    ((put name value entries).2.map Prod.fst).Nodup := by
  rw [names_put]
  split
  · exact distinct
  · rename_i absent
    refine List.nodup_append.mpr ⟨distinct, by simp, ?_⟩
    intro first inside second last equal
    have final : second = name := by simpa using last
    exact absent (final ▸ equal ▸ inside)

/-- Among entries with distinct names a look-up finds the value of every entry, since no other
one of that name can come first. -/
theorem lookup_of_mem {entries : List (String × α)} (distinct : (entries.map Prod.fst).Nodup)
    {entry : String × α} (member : entry ∈ entries) : entries.lookup entry.1 = some entry.2 := by
  induction entries with
  | nil => cases member
  | cons first rest inductionHypothesis =>
    obtain ⟨absent, distinctRest⟩ := List.nodup_cons.mp distinct
    rw [lookup_entry]
    rcases List.mem_cons.mp member with rfl | inside
    · exact if_pos rfl
    · have different : ¬ entry.1 = first.1 := fun same =>
        absent (same ▸ List.mem_map_of_mem inside)
      rw [if_neg different, inductionHypothesis distinctRest inside]

/-- Among entries with distinct names taking a name away leaves all others as they are. -/
theorem take_eq_filter (name : String) {entries : List (String × α)}
    (distinct : (entries.map Prod.fst).Nodup) :
    (take name entries).2 = entries.filter fun entry => entry.1 ≠ name := by
  induction entries with
  | nil => rfl
  | cons entry rest inductionHypothesis =>
    obtain ⟨other, old⟩ := entry
    obtain ⟨absent, distinctRest⟩ := List.nodup_cons.mp distinct
    by_cases same : other = name
    · have kept : ∀ entry ∈ rest, decide (entry.1 ≠ name) = true := fun entry inside =>
        decide_eq_true fun equal => absent (List.mem_map.mpr ⟨entry, inside, equal.trans same.symm⟩)
      rw [List.filter_cons_of_neg (by simpa using same), List.filter_eq_self.mpr kept]
      simp only [take, same, if_true]
    · rw [List.filter_cons_of_pos (by simpa using same)]
      simp only [take, same, if_false, inductionHypothesis distinctRest]

/-- Without the entries of a name a look-up finds nothing under it, and under every other name
what it found before. -/
theorem lookup_filter (name asked : String) (entries : List (String × α)) :
    (entries.filter fun entry => entry.1 ≠ name).lookup asked =
      if asked = name then none else entries.lookup asked := by
  induction entries with
  | nil => simp
  | cons entry rest inductionHypothesis =>
    obtain ⟨other, old⟩ := entry
    by_cases same : other = name
    · rw [List.filter_cons_of_neg (by simpa using same), inductionHypothesis, lookup_entry]
      split
      · rfl
      · rename_i different
        rw [if_neg fun met => different (met.trans same)]
    · rw [List.filter_cons_of_pos (by simpa using same), lookup_entry, inductionHypothesis,
        lookup_entry]
      by_cases met : asked = other
      · rw [if_pos met, if_pos met, if_neg fun equal => same (met.symm.trans equal)]
      · rw [if_neg met, if_neg met]

end Entries

/-- Distinct names with their values, in order of first insertion. -/
structure Table (α : Type u) where
  entries : List (String × α)
  distinct : (entries.map Prod.fst).Nodup

namespace Table

/-- The table without names. -/
def empty : Table α := ⟨[], List.nodup_nil⟩

/-- The names, in order of first insertion. -/
def names (table : Table α) : List String := table.entries.map Prod.fst

/-- How many names there are. -/
def size (table : Table α) : Nat := table.entries.length

/-- The value under a name. -/
def get? (table : Table α) (name : String) : Option α := table.entries.lookup name

/-- Whether a name is present. -/
def contains (table : Table α) (name : String) : Bool := (table.get? name).isSome

/-- Put a value under a name, together with the value it displaced. -/
def put (table : Table α) (name : String) (value : α) : Option α × Table α :=
  ((Entries.put name value table.entries).1,
    ⟨(Entries.put name value table.entries).2,
      Entries.nodup_put name value table.entries table.distinct⟩)

/-- Take a name away, together with the value it had. -/
def take (table : Table α) (name : String) : Option α × Table α :=
  ((Entries.take name table.entries).1,
    ⟨(Entries.take name table.entries).2,
      table.distinct.sublist ((Entries.take_sublist name table.entries).map Prod.fst)⟩)

/-- The table after a value was put under a name. -/
def insert (table : Table α) (name : String) (value : α) : Table α := (table.put name value).2

/-- The table after a name was taken away. -/
def erase (table : Table α) (name : String) : Table α := (table.take name).2

/-- The table after a value was put under a name that had none; a name that has a
value keeps it. -/
def insertNew (table : Table α) (name : String) (value : α) : Table α :=
  if table.contains name then table else table.insert name value

/-- Insert entries one after another, so the last entry of a name decides its
value and the first one its place. -/
def ofList (entries : List (String × α)) : Table α :=
  entries.foldl (fun table entry => table.insert entry.1 entry.2) empty

/-- Insert all entries of another table; its values win. -/
def union (table other : Table α) : Table α :=
  other.entries.foldl (fun result entry => result.insert entry.1 entry.2) table

/-- Insert the entries of another table whose names are new; old values win. -/
def unionNew (table other : Table α) : Table α :=
  other.entries.foldl (fun result entry => result.insertNew entry.1 entry.2) table

/-- Inserting shows under its own name alone. What is found under any other name stays. -/
theorem get?_insert (table : Table α) (name asked : String) (value : α) :
    (table.insert name value).get? asked = if asked = name then some value else table.get? asked :=
  Entries.lookup_put name asked value table.entries

/-- Inserting keeps the names and their order; a new name comes last. The order of a table is
that in which its names first came in. -/
theorem names_insert (table : Table α) (name : String) (value : α) :
    (table.insert name value).names =
      if name ∈ table.names then table.names else table.names ++ [name] :=
  Entries.names_put name value table.entries

/-- Taking a name away leaves the other entries, in their order and with their values. -/
theorem entries_erase (table : Table α) (name : String) :
    (table.erase name).entries = table.entries.filter fun entry => entry.1 ≠ name :=
  Entries.take_eq_filter name table.distinct

/-- It shows under its own name alone, where nothing is found any more. -/
theorem get?_erase (table : Table α) (name asked : String) :
    (table.erase name).get? asked = if asked = name then none else table.get? asked := by
  rw [get?, entries_erase, Entries.lookup_filter]
  rfl

/-- The other names are left, in their order. The gap is closed. -/
theorem names_erase (table : Table α) (name : String) :
    (table.erase name).names = table.names.filter fun other => other ≠ name := by
  rw [names, entries_erase, names, List.filter_map]
  rfl

/-- What is found in a table are its entries, each under its own name. -/
theorem get?_eq_some_iff (table : Table α) (name : String) (value : α) :
    table.get? name = some value ↔ (name, value) ∈ table.entries := by
  constructor
  · intro found
    obtain ⟨front, back, divided, _⟩ := List.lookup_eq_some_iff.mp found
    exact divided ▸ List.mem_append_right front List.mem_cons_self
  · exact Entries.lookup_of_mem table.distinct

/-- In tables with the same entries the same is found, in whatever order they stand. -/
theorem get?_eq_of_perm {table other : Table α} (same : table.entries.Perm other.entries)
    (name : String) : table.get? name = other.get? name := by
  apply Option.ext
  intro value
  rw [get?_eq_some_iff, get?_eq_some_iff, same.mem_iff]

/-- Inserting a new value shows under its own name alone, when nothing was found there. -/
theorem get?_insert_new (table : Table α) (name asked : String) (value : α) :
    (table.insertNew name value).get? asked =
      (table.get? asked).or (if asked = name then some value else none) := by
  unfold insertNew
  by_cases same : asked = name
  · subst same
    cases found : table.get? asked with
    | some old => simp [contains, found]
    | none => simp [contains, found, get?_insert]
  · rw [if_neg same, Option.or_none]
    split
    · rfl
    · rw [get?_insert, if_neg same]

/-- Inserting entries with distinct names shows them in front of what was found. The last entry
of a name would win, but there is one only. -/
theorem get?_insert_all (entries : List (String × α)) (distinct : (entries.map Prod.fst).Nodup)
    (table : Table α) (name : String) :
    (entries.foldl (fun result entry => result.insert entry.1 entry.2) table).get? name =
      (entries.lookup name).or (table.get? name) := by
  induction entries generalizing table with
  | nil => rfl
  | cons entry rest inductionHypothesis =>
    obtain ⟨absent, distinctRest⟩ := List.nodup_cons.mp distinct
    rw [List.foldl_cons, inductionHypothesis distinctRest, get?_insert, Entries.lookup_entry]
    by_cases same : name = entry.1
    · -- No entry behind this one has its name.
      have last : rest.lookup name = none := by
        refine List.lookup_eq_none_iff.mpr fun other inside => bne_iff_ne.mpr fun equal => ?_
        exact absent (List.mem_map.mpr ⟨other, inside, equal.symm.trans same⟩)
      rw [if_pos same, if_pos same, last, Option.none_or, Option.some_or]
    · rw [if_neg same, if_neg same]

/-- Inserting new entries shows them behind what was found, the first of each name. -/
theorem get?_insert_all_new (entries : List (String × α)) (table : Table α) (name : String) :
    (entries.foldl (fun result entry => result.insertNew entry.1 entry.2) table).get? name =
      (table.get? name).or (entries.lookup name) := by
  induction entries generalizing table with
  | nil => exact Option.or_none.symm
  | cons entry rest inductionHypothesis =>
    rw [List.foldl_cons, inductionHypothesis, get?_insert_new, Entries.lookup_entry,
      Option.or_assoc]
    split <;> rfl

/-- The values of the other table win. Where it has none, the old ones stay. -/
theorem get?_union (table other : Table α) (name : String) :
    (table.union other).get? name = (other.get? name).or (table.get? name) :=
  get?_insert_all other.entries other.distinct table name

/-- The old values win. The other table counts where there was none. -/
theorem get?_union_new (table other : Table α) (name : String) :
    (table.unionNew other).get? name = (table.get? name).or (other.get? name) :=
  get?_insert_all_new other.entries table name

/-- Inserting entries one after another finds nothing but what one of them or the
table before them has under the name. -/
theorem get?_foldl_insert (entries : List (String × α)) (table : Table α) (name : String)
    (value : α)
    (found : (entries.foldl (fun result entry => result.insert entry.1 entry.2) table).get? name =
      some value) : (name, value) ∈ entries ∨ table.get? name = some value := by
  induction entries generalizing table with
  | nil => exact Or.inr found
  | cons entry rest inductionHypothesis =>
    rcases inductionHypothesis (table.insert entry.1 entry.2) found with later | earlier
    · exact Or.inl (List.mem_cons_of_mem entry later)
    · rw [get?_insert] at earlier
      split at earlier
      · rename_i same
        have entryValue : entry.2 = value := Option.some.inj earlier
        exact Or.inl (same ▸ entryValue ▸ List.mem_cons_self)
      · exact Or.inr earlier

/-- A table made of entries has nothing but them, even when names come twice. -/
theorem mem_of_get?_of_list (entries : List (String × α)) (name : String) (value : α)
    (found : (ofList entries).get? name = some value) : (name, value) ∈ entries := by
  rcases get?_foldl_insert entries empty name value found with listed | impossible
  · exact listed
  · exact absurd impossible (by simp [get?, empty])

/-- Inserting entries whose names are new and distinct puts them behind all others, in their own
order. -/
theorem entries_foldl_insert (entries : List (String × α)) (table : Table α)
    (distinct : (table.entries.map Prod.fst ++ entries.map Prod.fst).Nodup) :
    (entries.foldl (fun result entry => result.insert entry.1 entry.2) table).entries =
      table.entries ++ entries := by
  induction entries generalizing table with
  | nil => exact (List.append_nil _).symm
  | cons entry rest inductionHypothesis =>
    have absent : entry.1 ∉ table.entries.map Prod.fst := fun inside =>
      (List.nodup_append.mp distinct).2.2 entry.1 inside entry.1 List.mem_cons_self rfl
    have inserted : (table.insert entry.1 entry.2).entries = table.entries ++ [entry] :=
      Entries.put_new entry.1 entry.2 table.entries absent
    have further : ((table.insert entry.1 entry.2).entries.map Prod.fst ++
        rest.map Prod.fst).Nodup := by
      rw [inserted, List.map_append, List.append_assoc]
      exact distinct
    rw [List.foldl_cons, inductionHypothesis _ further, inserted, List.append_assoc]
    rfl

/-- A table made of entries with distinct names has just these, in their order. -/
theorem entries_of_list (entries : List (String × α)) (distinct : (entries.map Prod.fst).Nodup) :
    (ofList entries).entries = entries :=
  entries_foldl_insert entries empty distinct

/-- Whether an entry may stand before another one when names ascend by code point. -/
def ascending (first second : String × α) : Bool := decide (first.1 ≤ second.1)

/-- The entries with names ascending by code point. -/
def sorted (table : Table α) : List (String × α) := table.entries.mergeSort ascending

/-- The names ascending by code point. -/
def sortedNames (table : Table α) : List String := table.sorted.map Prod.fst

/-- Sorting leaves nothing of the order of insertion: tables with the same entries are
sorted alike. -/
theorem sorted_eq_of_perm {table other : Table α} (same : table.entries.Perm other.entries) :
    table.sorted = other.sorted := by
  have ordered (entries : List (String × α)) :
      (entries.mergeSort ascending).Pairwise fun first second => ascending first second = true := by
    apply List.pairwise_mergeSort
    · intro first second third before after
      exact decide_eq_true (String.le_trans (of_decide_eq_true before) (of_decide_eq_true after))
    · intro first second
      simpa [ascending] using String.le_total first.1 second.1
  have permuted : table.sorted.Perm other.sorted :=
    (List.mergeSort_perm _ _).trans (same.trans (List.mergeSort_perm _ _).symm)
  refine List.Perm.eq_of_pairwise ?_ (ordered table.entries) (ordered other.entries) permuted
  -- Entries that may stand on either side of each other have the same name, and a name has
  -- one entry only.
  intro first second inside insideToo before after
  have name : first.1 = second.1 :=
    String.le_antisymm (of_decide_eq_true before) (of_decide_eq_true after)
  have found : other.get? first.1 = some first.2 :=
    Entries.lookup_of_mem other.distinct (same.subset (List.mem_mergeSort.mp inside))
  have foundToo : other.get? second.1 = some second.2 :=
    Entries.lookup_of_mem other.distinct (List.mem_mergeSort.mp insideToo)
  rw [name] at found
  exact Prod.ext name (Option.some.inj (found.symm.trans foundToo))

end Table

end SqlCondition
