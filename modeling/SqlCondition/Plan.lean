import SqlCondition.Reduction

/-!
# Plans

A plan collects conditions under a configuration. Conditions are added to a
conjunction; an alternative is added by making the conditions so far one side of a
disjunction. A refused condition is not added, and under the strict option the
plan remembers why.

What a plan's conditions build is kept once it was asked for, and so is its
numbered form; every change forgets both. Reading a plan therefore gives the plan
back, together with the answer and what the log shows.
-/

namespace SqlCondition

/-- Conditions under a configuration. -/
structure Plan where
  config : Config
  root : Node
  /-- Why a condition was refused. -/
  issue : Option ConditionIssue
  /-- What the conditions build, once asked for. -/
  built : Option Built
  /-- The numbered clause, once asked for. -/
  numbered : Option Clause

namespace Plan

/-- The plan without conditions. -/
def ofConfig (config : Config) : Plan := ⟨config, .bare, none, none, none⟩

/-- The plan without conditions for a dialect. -/
def ofDialect (dialect : Dialect) : Plan :=
  ofConfig (Config.default.withOptions { Options.default with dialect := dialect })

/-- The plan without what was kept. -/
def forget (plan : Plan) : Plan := { plan with built := none, numbered := none }

/-- The plan with a condition for which all others must hold too. -/
def conjoin (plan : Plan) (node : Node) : Plan :=
  { plan with root := plan.root.push node }.forget

/-- The plan with a condition that may hold instead of all others. -/
def disjoin (plan : Plan) (node : Node) : Plan :=
  { plan with root := Node.bare.push (.or [.node plan.root.enclosed, .node node] false) }.forget

/-- The plan after a condition was refused. -/
def refuse (plan : Plan) (issue : ConditionIssue) : Plan :=
  if plan.config.strict then { plan with issue := some issue }.forget else plan

/-- Add an input in a given way, unless it is refused. -/
def add (place : Plan → Node → Plan) (negated : Bool) (plan : Plan) (input : Input)
    (values : List Value) : Plan × List Event :=
  match Node.ofInput input values negated with
  | .ok node => (place plan node, [])
  | .error issue => (plan.refuse issue, [.ignored issue])

/-- Add a condition that must hold too. -/
def and (plan : Plan) (input : Input) (values : List Value) : Plan × List Event :=
  add conjoin false plan input values

/-- Add a condition that may hold instead. -/
def or (plan : Plan) (input : Input) (values : List Value) : Plan × List Event :=
  add disjoin false plan input values

/-- Add a condition that must not hold. -/
def not (plan : Plan) (input : Input) (values : List Value) : Plan × List Event :=
  add conjoin true plan input values

/-- The plan for a table. -/
def setTable (plan : Plan) (table : String) : Plan :=
  let options := { plan.config.toOptions with table := some table }
  { plan with config := plan.config.withOptions options }.forget

/-- The plan after an alias table was given. -/
def setAliases (plan : Plan) (aliases : Table String) (mode : AliasMode) : Plan :=
  let options := plan.config.toOptions.setAliases aliases mode
  { plan with config := plan.config.withOptions options }.forget

/-- The plan with a hook for a key. -/
def setHook (plan : Plan) (key : String) (hook : Hook) : Plan :=
  { plan with config := plan.config.withHook key hook }.forget

/-- An answer about a plan, the plan with what was kept on the way, and what the
log shows. -/
structure Answer (α : Type) where
  value : α
  plan : Plan
  events : List Event

/-- The same answer in another form. -/
def Answer.map {α β : Type} (change : α → β) (answer : Answer α) : Answer β :=
  ⟨change answer.value, answer.plan, answer.events⟩

/-- What the conditions build. It is worked out only when it is not kept. -/
def readBuilt (depth : Nat) (plan : Plan) : Option (Answer Built) :=
  match plan.built with
  | some built => some ⟨built, plan, []⟩
  | none =>
      (build depth plan.config (.node plan.root) [] false).map fun result =>
        ⟨result.1, { plan with built := some result.1 }, result.2⟩

/-- The clause of the conditions, complete or not. -/
def readClause (depth : Nat) (plan : Plan) : Option (Answer Clause) :=
  (plan.readBuilt depth).map (Answer.map Built.clause)

/-- The issue of the plan: the remembered one, or else the one that ended the
reduction. -/
def readIssue (depth : Nat) (plan : Plan) : Option (Answer (Option ConditionIssue)) :=
  (plan.readBuilt depth).map (Answer.map fun built => plan.issue.or built.issue)

/-- The numbered clause. It is worked out only when it is not kept. -/
def readNumbered (depth : Nat) (plan : Plan) : Option (Answer Clause) :=
  match plan.numbered with
  | some clause => some ⟨clause, plan, []⟩
  | none =>
      (plan.readBuilt depth).map fun answer =>
        let clause := answer.value.clause.numbered 0
        ⟨clause, { answer.plan with numbered := some clause }, answer.events⟩

/-- The clause of a plan without issues. A remembered issue is given at once. -/
def finish (depth : Nat) (plan : Plan) : Option (Except ConditionIssue Clause × List Event) :=
  match plan.issue with
  | some issue => some (.error issue, [])
  | none => (plan.readBuilt depth).map fun answer => (answer.value.result, answer.events)

/-- A refused condition leaves the conditions of a plan as they are, whether the plan is strict
or not. -/
theorem refuse_root (plan : Plan) (issue : ConditionIssue) :
    (plan.refuse issue).root = plan.root := by
  unfold refuse
  split <;> rfl

end Plan

end SqlCondition
