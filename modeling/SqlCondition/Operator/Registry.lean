import SqlCondition.Condition.Issue
import SqlCondition.Operator.Basic

/-!
# Registries of operators

A registry knows operators by name. Looking a name up follows aliases as long as
their targets are registered, for at most sixteen hops; an alias whose target is
not registered is an operator in its own right. A key without an operator gets one
by the kind of its value.
-/

namespace SqlCondition

/-- Operators by name. -/
structure Registry where
  operators : Table Operator

namespace Registry

/-- The registry without operators. -/
def empty : Registry := ⟨.empty⟩

/-- The registry with one more operator, or another one under its name. -/
def insert (registry : Registry) (name : String) (operator : Operator) : Registry :=
  ⟨registry.operators.insert name operator⟩

/-- The registry with the operators of another one, which win. -/
def union (registry other : Registry) : Registry := ⟨registry.operators.union other.operators⟩

/-- The registered names in ascending order. -/
def names (registry : Registry) : List String := registry.operators.sortedNames

/-- The shown form of a registry: its names. -/
def shown (registry : Registry) : String := Text.braced (registry.names.map Text.quoted)

/-- How many aliases are followed. -/
def maxHops : Nat := 16

/-- The registered operator that an operator stands for directly. -/
def hop? (registry : Registry) (operator : Operator) : Option Operator :=
  operator.aliasOf.bind registry.operators.get?

/-- The operator at which the aliases end, if they do within so many hops. -/
def follow (registry : Registry) : Nat → Operator → Option Operator
  | hops, operator =>
      match registry.hop? operator with
      | none => some operator
      | some next =>
          match hops with
          | 0 => none
          | remaining + 1 => follow registry remaining next

/-- What is found under a name. -/
inductive Lookup
  | missing
  | found (operator : Operator)
  /-- The aliases do not end in time. -/
  | tooDeep

/-- Look a name up and follow its aliases. -/
def lookup (registry : Registry) (name : String) : Lookup :=
  match registry.operators.get? name with
  | none => .missing
  | some operator =>
      match registry.follow maxHops operator with
      | some target => .found target
      | none => .tooDeep

/-- The operator that was found, if any. -/
def Lookup.operator? : Lookup → Option Operator
  | .found operator => some operator
  | _ => none

/-- What the log shows of a look-up: a warning about aliases that do not end. -/
def Lookup.events (name : String) : Lookup → List Event
  | .tooDeep => [.aliasTooDeep name]
  | _ => []

/-- The operator under a name, with what the log shows. -/
def resolve (registry : Registry) (name : String) : Option Operator × List Event :=
  ((registry.lookup name).operator?, (registry.lookup name).events name)

/-- The operator for a value whose key names none: null is tested for null, a list
for membership, anything else for equality, which needs no registration. -/
def infer (registry : Registry) : Value → Option Operator × List Event
  | .null => registry.resolve "isnull"
  | .list _ => registry.resolve "in"
  | _ =>
      let found := registry.resolve "exact"
      (some (found.1.getD .plain), found.2)

/-- The operator of a key, named or inferred. -/
def select (registry : Registry) (name : Option String) (value : Value) :
    Option Operator × List Event :=
  match name with
  | some name => registry.resolve name
  | none => registry.infer value

/-- An operator that stands for no other one is found at once, with any number of hops left. -/
theorem follow_plain (registry : Registry) (hops : Nat) (operator : Operator)
    (final : registry.hop? operator = none) : registry.follow hops operator = some operator := by
  unfold follow
  simp [final]

/-- What every registered operator has, the operator at which aliases end has too. Each hop
leads to a registered one. -/
theorem follow_all {motive : Operator → Prop} (registry : Registry)
    (all : ∀ name operator, registry.operators.get? name = some operator → motive operator)
    (hops : Nat) (operator target : Operator) (own : motive operator)
    (ended : registry.follow hops operator = some target) : motive target := by
  induction hops generalizing operator with
  | zero =>
    unfold follow at ended
    split at ended
    · exact Option.some.inj ended ▸ own
    · simp at ended
  | succ hops inductionHypothesis =>
    unfold follow at ended
    split at ended
    · exact Option.some.inj ended ▸ own
    · rename_i next hopped
      obtain ⟨name, _, registered⟩ := Option.bind_eq_some_iff.mp hopped
      exact inductionHypothesis next (all name next registered) ended

/-- So has every operator that is found, directly or over aliases. -/
theorem resolve_all {motive : Operator → Prop} (registry : Registry)
    (all : ∀ name operator, registry.operators.get? name = some operator → motive operator)
    (name : String) (operator : Operator) (found : (registry.resolve name).1 = some operator) :
    motive operator := by
  unfold resolve lookup at found
  cases registered : registry.operators.get? name with
  | none => simp [registered, Lookup.operator?] at found
  | some first =>
    cases ended : registry.follow maxHops first with
    | none => simp [registered, ended, Lookup.operator?] at found
    | some target =>
      have same : target = operator := by simpa [registered, ended, Lookup.operator?] using found
      exact same ▸ registry.follow_all all maxHops first target (all name first registered) ended

/-- So has every operator that is selected, when equality has it, which needs no
registration. -/
theorem select_all {motive : Operator → Prop} (registry : Registry)
    (all : ∀ name operator, registry.operators.get? name = some operator → motive operator)
    (equality : motive .plain) (name : Option String) (value : Value) (operator : Operator)
    (selected : (registry.select name value).1 = some operator) : motive operator := by
  have inferred (asked : String) (found : some ((registry.resolve asked).1.getD .plain) =
      some operator) : motive operator := by
    cases resolved : (registry.resolve asked).1 with
    | none =>
      have same : Operator.plain = operator := by simpa [resolved] using found
      exact same ▸ equality
    | some target =>
      have same : target = operator := by simpa [resolved] using found
      exact same ▸ registry.resolve_all all asked target resolved
  cases name with
  | some name => exact registry.resolve_all all name operator selected
  | none =>
    cases value with
    | null => exact registry.resolve_all all "isnull" operator selected
    | list items => exact registry.resolve_all all "in" operator selected
    | _ => exact inferred "exact" selected

end Registry

end SqlCondition
