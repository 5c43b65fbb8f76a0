import SqlCondition.Table
import SqlCondition.Value.Basic

/-!
# Tables and their histories

A table is made of entries and changed by putting values and taking names away. Its log says
what was done since it was made: values put and names dropped, in order. The log decides the
table. A name has the value that was put last, unless it was dropped since, and stands where
it was put first since it was last dropped.

Both are said of the log alone, and each further line of the log does to them what the step
that wrote it does to the table.
-/

namespace SqlCondition.Table

universe u
variable {α : Type u}

/-- A line of the log. -/
inductive Change (α : Type u)
  | put (name : String) (value : α)
  | drop (name : String)

/-- Every value put under the name was dropped later. -/
def Gone (log : List (Change α)) (name : String) : Prop :=
  ∀ before value after, log = before ++ .put name value :: after → .drop name ∈ after

/-- The value was put under the name, and since then none was, nor was the name dropped. -/
def LastPut (log : List (Change α)) (name : String) (value : α) : Prop :=
  ∃ before after, log = before ++ .put name value :: after ∧
    .drop name ∉ after ∧ ∀ other, .put name other ∉ after

/-- A value was put under the name behind so many lines. All before it were dropped, and the
name was not dropped since. -/
def FirstPut (log : List (Change α)) (name : String) (position : Nat) : Prop :=
  ∃ before value after, log = before ++ .put name value :: after ∧ before.length = position ∧
    Gone before name ∧ .drop name ∉ after

section Lines

variable {log : List (Change α)} {change : Change α} {name : String}

/-- A line of a log with one more is that one, or it is a line of the log before. So a log is
taken apart from its end. -/
theorem concat_eq_iff {before after : List (Change α)} {line : Change α} :
    log ++ [change] = before ++ line :: after ↔
      (after = [] ∧ log = before ∧ change = line) ∨
        ∃ rest, after = rest ++ [change] ∧ log = before ++ line :: rest := by
  constructor
  · intro same
    rcases List.eq_nil_or_concat after with rfl | ⟨rest, last, rfl⟩
    · exact .inl ⟨rfl, List.append_singleton_inj.mp same⟩
    · rw [List.concat_eq_append, ← List.cons_append, ← List.append_assoc] at same
      obtain ⟨rfl, rfl⟩ := List.append_singleton_inj.mp same
      exact .inr ⟨rest, List.concat_eq_append, rfl⟩
  · rintro (⟨rfl, rfl, rfl⟩ | ⟨rest, rfl, rfl⟩)
    · rfl
    · rw [List.append_assoc, List.cons_append]

/-- All is gone once the name is dropped, and stays so until a value is put. Lines about other
names change nothing. -/
theorem gone_concat : Gone (log ++ [change]) name ↔
    change = .drop name ∨ (∀ value, change ≠ .put name value) ∧ Gone log name := by
  constructor
  · intro gone
    by_cases dropped : change = .drop name
    · exact .inl dropped
    · refine .inr ⟨?_, ?_⟩
      · rintro value rfl
        cases gone log value [] rfl
      · rintro before value rest rfl
        have later := gone before value (rest ++ [change]) (concat_eq_iff.mpr (.inr ⟨rest, rfl, rfl⟩))
        rcases List.mem_append.mp later with inside | last
        · exact inside
        · exact absurd (List.mem_singleton.mp last).symm dropped
  · rintro ended before value after same
    rcases concat_eq_iff.mp same with ⟨rfl, rfl, rfl⟩ | ⟨rest, rfl, rfl⟩
    · rcases ended with dropped | ⟨kept, _⟩
      · cases dropped
      · exact absurd rfl (kept value)
    · rcases ended with rfl | ⟨_, gone⟩
      · exact List.mem_append_right rest List.mem_cons_self
      · exact List.mem_append_left [change] (gone before value rest rfl)

/-- The value put last is the one that a line puts, and stays so until a line is about the same
name. -/
theorem last_put_concat {value : α} : LastPut (log ++ [change]) name value ↔
    change = .put name value ∨
      change ≠ .drop name ∧ (∀ other, change ≠ .put name other) ∧ LastPut log name value := by
  constructor
  · rintro ⟨before, after, same, kept, alone⟩
    rcases concat_eq_iff.mp same with ⟨rfl, rfl, rfl⟩ | ⟨rest, rfl, rfl⟩
    · exact .inl rfl
    · rw [List.mem_append, List.mem_singleton, not_or] at kept
      simp only [List.mem_append, List.mem_singleton, not_or] at alone
      exact .inr ⟨Ne.symm kept.2, fun other => Ne.symm (alone other).2, before, rest, rfl, kept.1,
        fun other => (alone other).1⟩
  · rintro (rfl | ⟨kept, alone, before, rest, rfl, keptBefore, aloneBefore⟩)
    · exact ⟨log, [], rfl, List.not_mem_nil, fun other => List.not_mem_nil⟩
    · refine ⟨before, rest ++ [change], concat_eq_iff.mpr (.inr ⟨rest, rfl, rfl⟩), ?_, ?_⟩
      · rw [List.mem_append, List.mem_singleton, not_or]
        exact ⟨keptBefore, kept.symm⟩
      · intro other
        rw [List.mem_append, List.mem_singleton, not_or]
        exact ⟨aloneBefore other, (alone other).symm⟩

/-- A line puts a value first when all before is gone, and the first one stays the first until
the name is dropped. -/
theorem first_put_concat {position : Nat} : FirstPut (log ++ [change]) name position ↔
    (∃ value, change = .put name value) ∧ log.length = position ∧ Gone log name ∨
      change ≠ .drop name ∧ FirstPut log name position := by
  constructor
  · rintro ⟨before, value, after, same, length, gone, kept⟩
    rcases concat_eq_iff.mp same with ⟨rfl, rfl, rfl⟩ | ⟨rest, rfl, rfl⟩
    · exact .inl ⟨⟨value, rfl⟩, length, gone⟩
    · rw [List.mem_append, List.mem_singleton, not_or] at kept
      exact .inr ⟨Ne.symm kept.2, before, value, rest, rfl, length, gone, kept.1⟩
  · rintro (⟨⟨value, rfl⟩, length, gone⟩ | ⟨kept, before, value, rest, rfl, length, gone, keptBefore⟩)
    · exact ⟨log, value, [], rfl, length, gone, List.not_mem_nil⟩
    · refine ⟨before, value, rest ++ [change], concat_eq_iff.mpr (.inr ⟨rest, rfl, rfl⟩), length,
        gone, ?_⟩
      rw [List.mem_append, List.mem_singleton, not_or]
      exact ⟨keptBefore, kept.symm⟩

/-- What was put first was put somewhere in the log, so its place is before the next line. -/
theorem FirstPut.position_lt {position : Nat} (first : FirstPut log name position) :
    position < log.length := by
  obtain ⟨before, value, after, rfl, rfl, _⟩ := first
  rw [List.length_append, List.length_cons]
  omega

end Lines

section PutsAndDrops

variable {log : List (Change α)} {name asked : String} {value : α}

/-- A value that is put is not gone, and puts nothing away under other names. -/
theorem gone_put : Gone (log ++ [.put name value]) asked ↔ asked ≠ name ∧ Gone log asked := by
  simp [gone_concat, eq_comm]

/-- The value that is put is now the last one under its name. Other names keep theirs. -/
theorem last_put_put {found : α} : LastPut (log ++ [.put name value]) asked found ↔
    asked = name ∧ value = found ∨ asked ≠ name ∧ LastPut log asked found := by
  simp [last_put_concat, eq_comm]

/-- The value that is put is the first one where nothing was left under its name. Where a value
was, the first one stays the first. -/
theorem first_put_put {position : Nat} : FirstPut (log ++ [.put name value]) asked position ↔
    asked = name ∧ log.length = position ∧ Gone log asked ∨ FirstPut log asked position := by
  simp [first_put_concat, eq_comm]

/-- Dropping a name puts away all that was under it, and nothing else. -/
theorem gone_drop : Gone (log ++ [.drop name]) asked ↔ asked = name ∨ Gone log asked := by
  simp [gone_concat, eq_comm]

/-- After the drop no value is the last one under the name that was dropped. Other names keep
theirs. -/
theorem last_put_drop {found : α} : LastPut (log ++ [.drop name]) asked found ↔
    asked ≠ name ∧ LastPut log asked found := by
  simp [last_put_concat, eq_comm]

/-- After the drop no value is the first one under the name that was dropped, and the places of
other names stay. -/
theorem first_put_drop {position : Nat} : FirstPut (log ++ [.drop name]) asked position ↔
    asked ≠ name ∧ FirstPut log asked position := by
  simp [first_put_concat, eq_comm]

end PutsAndDrops

/-- A table has the values and the order that a log decides. -/
structure Recorded (table : Table α) (log : List (Change α)) : Prop where
  value : ∀ name value, table.get? name = some value ↔ LastPut log name value
  absent : ∀ name, name ∉ table.names ↔ Gone log name
  present : ∀ name, name ∈ table.names ↔ ∃ position, FirstPut log name position
  order : table.names.Pairwise fun first second => ∀ position later,
    FirstPut log first position → FirstPut log second later → position < later

/-- The table without names has an empty log. Nothing was put, so all is gone. -/
theorem recorded_empty : Recorded (empty : Table α) [] := by
  have bare {before after : List (Change α)} {line : Change α} :
      ¬ [] = before ++ line :: after := by simp
  constructor
  · intro name value
    constructor
    · rintro ⟨⟩
    · rintro ⟨before, after, same, _⟩
      exact absurd same bare
  · intro name
    exact ⟨fun _ _ _ _ same => absurd same bare, fun _ => List.not_mem_nil⟩
  · intro name
    constructor
    · rintro ⟨⟩
    · rintro ⟨position, before, value, after, same, _⟩
      exact absurd same bare
  · exact .nil

section Steps

variable {table : Table α} {log : List (Change α)}

/-- Putting a value keeps what the log decides. A name that is new comes last, and the others
were put first before. -/
theorem Recorded.insert (recorded : Recorded table log) (name : String) (value : α) :
    Recorded (table.insert name value) (log ++ [.put name value]) := by
  have member (asked : String) :
      asked ∈ (table.insert name value).names ↔ asked = name ∨ asked ∈ table.names := by
    rw [names_insert]
    split
    · rename_i inside
      exact ⟨.inr, fun either => either.elim (fun same => same ▸ inside) id⟩
    · rw [List.mem_append, List.mem_singleton, or_comm]
  constructor
  · intro asked found
    rw [get?_insert, last_put_put, ← recorded.value]
    by_cases same : asked = name
    · simp [same]
    · simp [same]
  · intro asked
    rw [member, gone_put, ← recorded.absent, not_or]
  · intro asked
    rw [member]
    by_cases inside : asked ∈ table.names
    · obtain ⟨position, first⟩ := (recorded.present asked).mp inside
      exact ⟨fun _ => ⟨position, first_put_put.mpr (.inr first)⟩, fun _ => .inr inside⟩
    · constructor
      · rintro (rfl | impossible)
        · have gone := (recorded.absent asked).mp inside
          exact ⟨log.length, first_put_put.mpr (.inl ⟨rfl, rfl, gone⟩)⟩
        · exact absurd impossible inside
      · rintro ⟨position, first⟩
        rcases first_put_put.mp first with ⟨same, _⟩ | before
        · exact .inl same
        · exact .inr ((recorded.present asked).mpr ⟨position, before⟩)
  · -- A name that is there keeps its first line, whichever line is added.
    have before {asked : String} (inside : asked ∈ table.names) {position : Nat}
        (first : FirstPut (log ++ [.put name value]) asked position) :
        FirstPut log asked position := by
      rcases first_put_put.mp first with ⟨_, _, gone⟩ | before
      · exact absurd inside ((recorded.absent asked).mpr gone)
      · exact before
    have ordered : table.names.Pairwise fun first second => ∀ position later,
        FirstPut (log ++ [.put name value]) first position →
          FirstPut (log ++ [.put name value]) second later → position < later :=
      recorded.order.imp_of_mem fun inside insideToo apart position later first second =>
        apart position later (before inside first) (before insideToo second)
    rw [names_insert]
    split
    · exact ordered
    · rename_i absent
      refine List.pairwise_append.mpr ⟨ordered, List.pairwise_singleton _ _, ?_⟩
      intro earlier inside last atEnd position later first second
      have earlierLine := (before inside first).position_lt
      rw [List.mem_singleton] at atEnd
      subst atEnd
      rcases first_put_put.mp second with ⟨_, rfl, _⟩ | impossible
      · exact earlierLine
      · exact absurd ((recorded.present last).mpr ⟨later, impossible⟩) absent

/-- Taking a name away keeps what the log decides: the others keep their values and their order. -/
theorem Recorded.erase (recorded : Recorded table log) (name : String) :
    Recorded (table.erase name) (log ++ [.drop name]) := by
  constructor
  · intro asked found
    rw [get?_erase, last_put_drop, ← recorded.value]
    by_cases same : asked = name
    · simp [same]
    · simp [same]
  · intro asked
    simp only [names_erase, gone_drop, List.mem_filter, ← recorded.absent]
    by_cases same : asked = name
    · simp [same]
    · simp [same]
  · intro asked
    simp only [names_erase, first_put_drop, List.mem_filter, recorded.present]
    by_cases same : asked = name
    · simp [same]
    · simp [same]
  · rw [names_erase]
    refine (recorded.order.filter _).imp fun ordered position later first second => ?_
    exact ordered position later (first_put_drop.mp first).2 (first_put_drop.mp second).2

/-- Putting entries one after another keeps what the log decides, with a line for each of them. -/
theorem Recorded.insert_all (recorded : Recorded table log) (entries : List (String × α)) :
    Recorded (entries.foldl (fun result entry => result.insert entry.1 entry.2) table)
      (log ++ entries.map fun entry => .put entry.1 entry.2) := by
  induction entries generalizing table log with
  | nil =>
    rw [List.map_nil, List.append_nil]
    exact recorded
  | cons entry rest inductionHypothesis =>
    have later := inductionHypothesis (recorded.insert entry.1 entry.2)
    rwa [List.append_assoc] at later

end Steps

/-- A step: a value put for the value it displaces or for the table alone, a name taken away,
or a table made of entries in place of the one there was. -/
inductive Step (α : Type u)
  | put (name : String) (value : α)
  | insert (name : String) (value : α)
  | take (name : String)
  | collect (entries : List (String × α))

/-- The table after a step, with what the step gives back. -/
def Step.perform (table : Table α) : Step α → Option α × Table α
  | .put name value => table.put name value
  | .insert name value => (none, table.insert name value)
  | .take name => table.take name
  | .collect entries => (none, ofList entries)

/-- The log after a step. Making a table of entries begins a new one. -/
def Step.note (log : List (Change α)) : Step α → List (Change α)
  | .put name value => log ++ [.put name value]
  | .insert name value => log ++ [.put name value]
  | .take name => log ++ [.drop name]
  | .collect entries => entries.map fun entry => .put entry.1 entry.2

/-- The table after all steps. -/
def run (steps : List (Step α)) : Table α :=
  steps.foldl (fun table step => (step.perform table).2) empty

/-- The log after all steps. -/
def history (steps : List (Step α)) : List (Change α) := steps.foldl Step.note []

/-- A step keeps what the log decides. A table made of entries begins with an empty one. -/
theorem Recorded.step {table : Table α} {log : List (Change α)} (recorded : Recorded table log)
    (step : Step α) : Recorded (step.perform table).2 (step.note log) := by
  cases step with
  | put name value => exact recorded.insert name value
  | insert name value => exact recorded.insert name value
  | take name => exact recorded.erase name
  | collect entries => exact recorded_empty.insert_all entries

/-- So the log decides the table after all steps, by induction over them. -/
theorem recorded_run (steps : List (Step α)) : Recorded (run steps) (history steps) := by
  have after (table : Table α) (log : List (Change α)) (recorded : Recorded table log) :
      Recorded (steps.foldl (fun table step => (step.perform table).2) table)
        (steps.foldl Step.note log) := by
    induction steps generalizing table log with
    | nil => exact recorded
    | cons step rest inductionHypothesis => exact inductionHypothesis _ _ (recorded.step step)
  exact after empty [] recorded_empty

/-- After any steps the names are distinct. A name has the value that was put last under it and
not dropped since, and no value when there is none. The names stand in the order in which they
were put first since they were last dropped. Putting a further value gives back what was found
under the name, and keeps the names where they are; a new name comes last. Taking a name away
gives back what was found under it, and leaves the other entries in their order.

Each kind of step does to the table what its line does to the log, so table and log are followed
together. What a further step gives back is read off the table that was reached. -/
theorem ordered_by_insertion (steps : List (Step α)) :
    (run steps).names.Nodup ∧
      (∀ name value, (run steps).get? name = some value ↔ LastPut (history steps) name value) ∧
      (∀ name, (run steps).get? name = none ↔ ∀ value, ¬ LastPut (history steps) name value) ∧
      (∀ name, name ∈ (run steps).names ↔ ∃ position, FirstPut (history steps) name position) ∧
      ((run steps).names.Pairwise fun first second => ∀ position later,
        FirstPut (history steps) first position → FirstPut (history steps) second later →
          position < later) ∧
      (∀ name value, ((run steps).put name value).1 = (run steps).get? name ∧
        ((run steps).put name value).2.names =
          if name ∈ (run steps).names then (run steps).names else (run steps).names ++ [name]) ∧
      ∀ name, ((run steps).take name).1 = (run steps).get? name ∧
        ((run steps).take name).2.entries =
          (run steps).entries.filter fun entry => entry.1 ≠ name := by
  have recorded := recorded_run steps
  refine ⟨(run steps).distinct, recorded.value, ?_, recorded.present, recorded.order, ?_, ?_⟩
  · intro name
    rw [Option.eq_none_iff_forall_ne_some]
    exact forall_congr' fun value => not_congr (recorded.value name value)
  · intro name value
    exact ⟨Entries.put_displaced name value _, names_insert _ name value⟩
  · intro name
    exact ⟨Entries.take_displaced name _, entries_erase _ name⟩

/-- Steps after which an age that was put first is taken away and put once more. -/
def returningAge : List (Step Value) :=
  [.collect [("age", .int 18), ("name", .text "Go"), ("age", .int 19)], .take "age",
    .insert "age" (.int 20), .put "name" (.text "Rust")]

/-- The age then stands behind the name, with the value that was put last. The value that was
there at the beginning left no trace. -/
theorem returning_age_stands_last :
    (run returningAge).names = ["name", "age"] ∧
      LastPut (history returningAge) "age" (.int 20) ∧
      (∃ position later, FirstPut (history returningAge) "name" position ∧
        FirstPut (history returningAge) "age" later ∧ position < later) ∧
      ((run returningAge).put "name" .null).1 = some (.text "Rust") := by
  obtain ⟨-, value, -, present, order, put, -⟩ := ordered_by_insertion returningAge
  obtain ⟨position, name⟩ := (present "name").mp List.mem_cons_self
  obtain ⟨later, age⟩ := (present "age").mp (List.mem_cons_of_mem "name" List.mem_cons_self)
  have apart := (List.pairwise_cons.mp order).1 "age" List.mem_cons_self position later name age
  exact ⟨rfl, (value "age" (.int 20)).mp rfl, ⟨position, later, name, age, apart⟩,
    (put "name" .null).1⟩

end SqlCondition.Table
