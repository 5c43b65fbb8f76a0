import SqlCondition.Plan

/-!
# Histories of plans

A plan is changed by adding conditions and by setting with what they are written, one
change after another. Which conditions are accepted depends on the conditions alone,
and the accepted ones are placed into the plan's tree one by one; a refused condition
and every setting leave the tree as it is. So the tree after a history of changes is
the fold of its accepted conditions, whatever was set between them.
-/

namespace SqlCondition.Plan

/-- How a condition is added to a plan. -/
inductive Way
  | and
  | or
  | not
  deriving DecidableEq

namespace Way

/-- Whether a condition that is added this way must not hold. -/
def negated : Way → Bool
  | .not => true
  | .and | .or => false

/-- The tree with a node that is added this way. -/
def place : Way → Node → Node → Node
  | .or, root, node => Node.bare.push (.or [.node root.enclosed, .node node] false)
  | .and, root, node | .not, root, node => root.push node

end Way

/-- A condition and the way in which it is to be added. -/
structure Condition where
  way : Way
  input : Input
  values : List Value

namespace Condition

/-- The node of a condition, or why the condition is refused. -/
def node (condition : Condition) : Except ConditionIssue Node :=
  Node.ofInput condition.input condition.values condition.way.negated

/-- Whether a condition is accepted. -/
def accepted (condition : Condition) : Bool := condition.node.toBool

/-- A condition is accepted exactly when its input stands for a node. -/
theorem accepted_iff (condition : Condition) :
    condition.accepted = true ↔ ∃ node, condition.node = .ok node := by
  unfold accepted
  cases condition.node <;> simp [Except.toBool]

/-- A condition is refused exactly when normalizing its input gives an issue. There is no third
case, so acceptance can be decided by this. -/
theorem refused_iff (condition : Condition) :
    condition.accepted = false ↔ ∃ issue, condition.node = .error issue := by
  unfold accepted
  cases condition.node <;> simp [Except.toBool]

/-- The tree after a condition was to be added. -/
def place (root : Node) (condition : Condition) : Node :=
  match condition.node with
  | .ok node => condition.way.place root node
  | .error _ => root

end Condition

/-- A change of a plan. -/
inductive Change
  | add (condition : Condition)
  | table (name : String)
  | aliases (aliases : Table String) (mode : AliasMode)
  | hook (key : String) (hook : Hook)

/-- The condition that a change is to add. -/
def Change.condition? : Change → Option Condition
  | .add condition => some condition
  | _ => none

/-- The accepted conditions of a history, in order. -/
def conditions (changes : List Change) : List Condition :=
  (changes.filterMap Change.condition?).filter Condition.accepted

/-- Whether a change is anything but a condition that is refused. -/
def Change.taken (change : Change) : Bool := change.condition?.all Condition.accepted

/-- The configuration after a change. Conditions leave it as it is. -/
def Change.configure (config : Config) : Change → Config
  | .add _ => config
  | .table name => config.withOptions { config.toOptions with table := some name }
  | .aliases given mode => config.withOptions (config.toOptions.setAliases given mode)
  | .hook key registered => config.withHook key registered

/-- The plan after a change, with what the log shows. -/
def apply (plan : Plan) : Change → Plan × List Event
  | .add ⟨.and, input, values⟩ => plan.and input values
  | .add ⟨.or, input, values⟩ => plan.or input values
  | .add ⟨.not, input, values⟩ => plan.not input values
  | .table name => (plan.setTable name, [])
  | .aliases aliases mode => (plan.setAliases aliases mode, [])
  | .hook key hook => (plan.setHook key hook, [])

/-- The plan after a history of changes. -/
def after (plan : Plan) (changes : List Change) : Plan :=
  changes.foldl (fun reached change => (reached.apply change).1) plan

/-- Noting a refusal keeps the configuration of a plan; it touches the remembered issue only. -/
theorem refuse_config (plan : Plan) (issue : ConditionIssue) :
    (plan.refuse issue).config = plan.config := by
  unfold refuse
  split <;> rfl

/-- An accepted condition is placed into the tree, and what was kept of earlier reads is
forgotten, for it is no longer what the tree says. -/
theorem apply_accepted (plan : Plan) (condition : Condition) (node : Node)
    (taken : condition.node = .ok node) :
    plan.apply (.add condition) =
      ({ plan with root := condition.way.place plan.root node }.forget, []) := by
  obtain ⟨way, input, values⟩ := condition
  unfold Condition.node at taken
  cases way <;>
    simp only [Way.negated] at taken <;>
    simp only [apply, Plan.and, Plan.or, Plan.not, add, taken, conjoin, disjoin, Way.place]

/-- A refused condition is noted in the log and, by a strict plan, remembered as its issue. The
tree has no part of it. -/
theorem apply_refused (plan : Plan) (condition : Condition) (issue : ConditionIssue)
    (refused : condition.node = .error issue) :
    plan.apply (.add condition) = (plan.refuse issue, [.ignored issue]) := by
  obtain ⟨way, input, values⟩ := condition
  unfold Condition.node at refused
  cases way <;>
    simp only [Way.negated] at refused <;>
    simp only [apply, Plan.and, Plan.or, Plan.not, add, refused]

/-- A change places its condition into the tree, if it has one that is accepted. Settings and
refused conditions leave the tree alone. -/
theorem root_apply (plan : Plan) (change : Change) :
    (plan.apply change).1.root = change.condition?.elim plan.root (Condition.place plan.root) := by
  cases change with
  | add condition =>
    simp only [Change.condition?, Option.elim_some, Condition.place]
    cases taken : condition.node with
    | ok node => rw [plan.apply_accepted condition node taken]; rfl
    | error issue => rw [plan.apply_refused condition issue taken, refuse_root]
  | table name => rfl
  | aliases aliases mode => rfl
  | hook key hook => rfl

/-- The tree after a history is the fold of its accepted conditions, in the order of the calls.
This is the run of `root_apply`, by induction over the changes. -/
theorem root_after (plan : Plan) (changes : List Change) :
    (plan.after changes).root = (conditions changes).foldl Condition.place plan.root := by
  induction changes generalizing plan with
  | nil => rfl
  | cons change rest inductionHypothesis =>
    have later : (plan.after (change :: rest)).root =
        (conditions rest).foldl Condition.place (plan.apply change).1.root :=
      inductionHypothesis (plan.apply change).1
    rw [later, root_apply]
    cases change with
    | add condition =>
      cases taken : condition.node with
      | ok node =>
        have kept : condition.accepted = true := condition.accepted_iff.mpr ⟨node, taken⟩
        simp [conditions, Change.condition?, kept]
      | error issue =>
        have dropped : condition.accepted = false := condition.refused_iff.mpr ⟨issue, taken⟩
        simp [conditions, Change.condition?, dropped, Condition.place, taken]
    | table name => rfl
    | aliases aliases mode => rfl
    | hook key hook => rfl

/-- A change sets the configuration as it says, whatever the conditions are and whether they are
accepted. -/
theorem config_apply (plan : Plan) (change : Change) :
    (plan.apply change).1.config = change.configure plan.config := by
  cases change with
  | add condition =>
    cases taken : condition.node with
    | ok node => rw [plan.apply_accepted condition node taken]; rfl
    | error issue => rw [plan.apply_refused condition issue taken, refuse_config]; rfl
  | table name => rfl
  | aliases aliases mode => rfl
  | hook key hook => rfl

/-- The configuration after a history is the fold of its settings alone, so conditions may be
left out of it or moved between settings. -/
theorem config_after (plan : Plan) (changes : List Change) :
    (plan.after changes).config = changes.foldl Change.configure plan.config := by
  induction changes generalizing plan with
  | nil => rfl
  | cons change rest inductionHypothesis =>
    rw [List.foldl_cons, ← config_apply]
    exact inductionHypothesis (plan.apply change).1

/-- A change that is not taken adds a condition, and that condition is refused. Settings are
always taken. -/
theorem Change.eq_of_not_taken {change : Change} (refused : ¬change.taken = true) :
    ∃ condition, change = .add condition ∧ condition.accepted = false := by
  cases change with
  | add condition => exact ⟨condition, rfl, by simpa [taken, condition?] using refused⟩
  | table name => exact absurd rfl refused
  | aliases given mode => exact absurd rfl refused
  | hook key registered => exact absurd rfl refused

/-- Refused conditions can be left out of a history: the tree and the configuration are
the same without them. -/
theorem after_taken (plan : Plan) (changes : List Change) :
    (plan.after (changes.filter Change.taken)).root = (plan.after changes).root ∧
      (plan.after (changes.filter Change.taken)).config = (plan.after changes).config := by
  -- The refused condition itself may change what the plan remembers, but neither the tree
  -- nor the configuration, and what comes later reads nothing else.
  induction changes generalizing plan with
  | nil => exact ⟨rfl, rfl⟩
  | cons change rest inductionHypothesis =>
    by_cases taken : change.taken = true
    · rw [List.filter_cons_of_pos taken]
      exact inductionHypothesis (plan.apply change).1
    · obtain ⟨condition, rfl, refused⟩ := Change.eq_of_not_taken taken
      rw [List.filter_cons_of_neg taken]
      have same : conditions (.add condition :: rest) = conditions rest := by
        simp [conditions, Change.condition?, refused]
      have root : (plan.after rest).root = (plan.after (.add condition :: rest)).root := by
        rw [root_after, root_after, same]
      have config : (plan.after rest).config = (plan.after (.add condition :: rest)).config := by
        rw [config_after, config_after]
        rfl
      obtain ⟨sameRoot, sameConfig⟩ := inductionHypothesis plan
      exact ⟨sameRoot.trans root, sameConfig.trans config⟩

/-- Whether a change makes a plan forget what it keeps. Only a refused condition that
need not be remembered does not. -/
def Change.clears (strict : Bool) : Change → Bool
  | .add condition => condition.accepted || strict
  | .table _ | .aliases _ _ | .hook _ _ => true

/-- After a change that clears, nothing of an earlier read is kept: forgetting once more has no
effect. -/
theorem apply_clears (plan : Plan) (change : Change)
    (clears : change.clears plan.config.strict = true) :
    (plan.apply change).1.forget = (plan.apply change).1 := by
  cases change with
  | add condition =>
    cases taken : condition.node with
    | ok node => rw [plan.apply_accepted condition node taken]; rfl
    | error issue =>
      have refused : condition.accepted = false := condition.refused_iff.mpr ⟨issue, taken⟩
      have strict : plan.config.strict = true := by simpa [Change.clears, refused] using clears
      rw [plan.apply_refused condition issue taken, refuse, if_pos strict]
      rfl
  | table name => rfl
  | aliases given mode => rfl
  | hook key registered => rfl

/-- After any other change everything is as it was, the kept results included. The log has an
entry about the refusal at most, and none about a clause. -/
theorem apply_ignored (plan : Plan) (change : Change)
    (ignored : change.clears plan.config.strict = false) :
    (plan.apply change).1 = plan ∧ ∀ event ∈ (plan.apply change).2, event.severity ≠ .trace := by
  cases change with
  | add condition =>
    rw [Change.clears, Bool.or_eq_false_iff] at ignored
    obtain ⟨refused, lenient⟩ := ignored
    obtain ⟨issue, taken⟩ := condition.refused_iff.mp refused
    rw [plan.apply_refused condition issue taken, refuse, lenient]
    simp [Event.severity]
  | table name => cases ignored
  | aliases given mode => cases ignored
  | hook key registered => cases ignored

/-- Changes keep nothing by themselves: an unread plan stays unread under every one of them. -/
theorem unread_apply (plan : Plan) (change : Change) (unread : plan.built = none) :
    (plan.apply change).1.built = none := by
  cases clears : change.clears plan.config.strict with
  | true => exact plan.apply_clears change clears ▸ rfl
  | false => rw [(plan.apply_ignored change clears).1, unread]

/-- A plan that was only changed since it was made was never read, however many changes there
were. -/
theorem unread_after (plan : Plan) (changes : List Change) (unread : plan.built = none) :
    (plan.after changes).built = none := by
  induction changes generalizing plan with
  | nil => exact unread
  | cons change rest inductionHypothesis =>
    exact inductionHypothesis _ (plan.unread_apply change unread)

end SqlCondition.Plan
