import SqlCondition.Proofs.Accumulation
import SqlCondition.Proofs.Caching

/-!
# Which refusal a plan remembers

A strict plan remembers one refused condition. Each refusal takes the place of the one
before it, so of several the plan reports the last, and the others are lost.

What else happens to the plan makes no difference: apart from the results that it keeps,
its own changes alone decide what a plan is. Reads, copies and whatever is done with
other plans leave it as it was.
-/

namespace SqlCondition.Plan

/-! ## Refusals in a history -/

/-- Why a condition is refused, if it is. -/
def Condition.refusal? (condition : Condition) : Option ConditionIssue :=
  match condition.node with
  | .ok _ => none
  | .error issue => some issue

/-- Why a change is refused. Only conditions are. -/
def Change.refusal? (change : Change) : Option ConditionIssue :=
  change.condition?.bind Condition.refusal?

/-- The refusals in a history, in order. -/
def refusals (changes : List Change) : List ConditionIssue := changes.filterMap Change.refusal?

/-- No change makes a plan strict or lenient: the mode is fixed when the plan is made. -/
theorem strict_apply (plan : Plan) (change : Change) :
    (plan.apply change).1.config.strict = plan.config.strict := by
  rw [config_apply]
  cases change with
  | aliases given mode => cases mode <;> rfl
  | add condition => rfl
  | table name => rfl
  | hook key registered => rfl

/-- A strict plan remembers the refusal of a change. What it remembered stays when there
is none. -/
theorem issue_apply (plan : Plan) (strict : plan.config.strict = true) (change : Change) :
    (plan.apply change).1.issue = change.refusal?.or plan.issue := by
  cases change with
  | add condition =>
    simp only [Change.refusal?, Change.condition?, Option.bind_some, Condition.refusal?]
    cases taken : condition.node with
    | ok node =>
      rw [plan.apply_accepted condition node taken]
      rfl
    | error issue =>
      rw [plan.apply_refused condition issue taken, refuse, if_pos strict]
      rfl
  | table name => rfl
  | aliases given mode => rfl
  | hook key registered => rfl

/-- So after a history it remembers the last refusal in it. By induction over the changes, each
refusal taking the place of those before it. -/
theorem issue_after (plan : Plan) (strict : plan.config.strict = true) (changes : List Change) :
    (plan.after changes).issue = (refusals changes).getLast?.or plan.issue := by
  induction changes generalizing plan with
  | nil => rfl
  | cons change rest inductionHypothesis =>
    have later : (plan.after (change :: rest)).issue =
        (refusals rest).getLast?.or (plan.apply change).1.issue :=
      inductionHypothesis _ ((plan.strict_apply change).trans strict)
    rw [later, plan.issue_apply strict, refusals, refusals]
    cases refused : change.refusal? with
    | none => rw [List.filterMap_cons_none refused, Option.none_or]
    | some issue =>
      rw [List.filterMap_cons_some refused, List.getLast?_cons, Option.some_or]
      cases (rest.filterMap Change.refusal?).getLast? <;> rfl

/-! ## Plans in a run -/

/-- The changes that an action makes. -/
def Action.changes : Action → List Change
  | .change _ requested => [requested]
  | .ask _ _ _ | .copy _ => []

/-- The changes that actions make to one of several plans, in order. -/
def changesOf (index : Nat) (actions : List Action) : List Change :=
  (actions.filter fun action => action.index = index).flatMap Action.changes

/-- A change does the same to plans that differ only in what they keep, since no change reads
what is kept. -/
theorem apply_congr {plan other : Plan} (same : plan.forget = other.forget) (change : Change) :
    (plan.apply change).1.forget = (other.apply change).1.forget := by
  obtain ⟨config, root, issue, built, numbered⟩ := plan
  obtain ⟨otherConfig, otherRoot, otherIssue, otherBuilt, otherNumbered⟩ := other
  simp only [forget, Plan.mk.injEq, and_true] at same
  obtain ⟨rfl, rfl, rfl⟩ := same
  cases change with
  | add condition =>
    cases taken : condition.node with
    | ok node =>
      rw [apply_accepted _ condition node taken, apply_accepted _ condition node taken]
      rfl
    | error reason =>
      rw [apply_refused _ condition reason taken, apply_refused _ condition reason taken]
      unfold refuse
      split <;> rfl
  | table name => rfl
  | aliases given mode => rfl
  | hook key registered => rfl

/-- So does a history, change by change. -/
theorem after_congr {plan other : Plan} (same : plan.forget = other.forget)
    (changes : List Change) : (plan.after changes).forget = (other.after changes).forget := by
  induction changes generalizing plan other with
  | nil => exact same
  | cons change rest inductionHypothesis => exact inductionHypothesis (apply_congr same change)

/-- A read touches only what is kept, and leaves configuration, condition and issue as they are. -/
theorem Effect.forget {plan after : Plan} {events : List Event}
    (effect : Effect plan events after) : after.forget = plan.forget := by
  unfold Plan.forget
  rw [effect.root, effect.config, effect.issue]

/-- Apart from what it keeps, a plan is what the changes of an action make of it. Reads and
copies make none. -/
theorem Action.on_forget {action : Action} {plan left : Plan} {events : List Event}
    (done : action.on plan = some (left, events)) :
    left.forget = (plan.after action.changes).forget := by
  cases action with
  | change index change =>
    have same : plan.apply change = (left, events) := Option.some.inj done
    exact congrArg (fun applied => applied.1.forget) same.symm
  | ask index depth question =>
    obtain ⟨answer, asked, same⟩ := Option.map_eq_some_iff.mp done
    cases same
    exact (ask_effect asked).forget
  | copy index =>
    cases done
    rfl

/-- Apart from what it keeps, each plan in a run is what its own changes make of it. -/
theorem run_forget {index : Nat} {actions : List Action} {pool final : List Plan}
    {log : List (Nat × Event)} {plan : Plan} (present : pool[index]? = some plan)
    (finished : run pool actions = some (final, log)) :
    ∃ left, final[index]? = some left ∧
      left.forget = (plan.after (changesOf index actions)).forget := by
  induction actions generalizing pool log plan with
  | nil =>
    cases finished
    exact ⟨plan, present, rfl⟩
  | cons action rest inductionHypothesis =>
    obtain ⟨reached, events, later, done, continued, _⟩ := run_cons_eq_some finished
    obtain ⟨next, stays, step⟩ := perform_at present done
    obtain ⟨left, ends, same⟩ := inductionHypothesis stays continued
    refine ⟨left, ends, same.trans ?_⟩
    rcases step with ⟨own, acted⟩ | ⟨other, rfl⟩
    · have first : changesOf index (action :: rest) = action.changes ++ changesOf index rest := by
        simp [changesOf, own]
      rw [first, after, after, List.foldl_append]
      exact after_congr (Action.on_forget acted) _
    · have first : changesOf index (action :: rest) = changesOf index rest := by
        simp [changesOf, other]
      rw [first]

/-! ## What is reported -/

/-- A plan that remembers an issue ends with it at any depth, and shows it as soon as its
conditions are built. -/
theorem remembered_reported {plan : Plan} {issue : ConditionIssue}
    (remembered : plan.issue = some issue) (depth : Nat) :
    plan.ends depth = some (.error issue) ∧
      plan.shows .error depth = (plan.builds depth).map fun _ => .issue (some issue) := by
  constructor
  · rw [ends_eq, remembered, Option.elim_some]
  · simp only [shows, ask, readIssue, builds, Option.map_map, remembered]
    rfl

/-- A strict plan reports the refusal that came last. Whatever is done with several plans, one
of them that had conditions refused ends with the last refusal so far, and shows it as its
issue, however many others came before.

In a run a plan is what its own changes make of it, apart from what it keeps. Each refused
change overwrites the issue and nothing else touches it, so the last one is remembered. -/
theorem latest_refusal_reported (pool : List Plan) (index : Nat) (plan : Plan)
    (present : pool[index]? = some plan) (strict : plan.config.strict = true)
    (actions : List Action) (final : List Plan) (log : List (Nat × Event))
    (reached : run pool actions = some (final, log)) (latest : ConditionIssue)
    (refused : (refusals (changesOf index actions)).getLast? = some latest) :
    ∃ left, final[index]? = some left ∧ ∀ depth, left.ends depth = some (.error latest) ∧
      left.shows .error depth = (left.builds depth).map fun _ => .issue (some latest) := by
  obtain ⟨left, stays, same⟩ := run_forget present reached
  have remembered : left.issue = some latest := by
    calc left.issue = left.forget.issue := rfl
      _ = (plan.after (changesOf index actions)).issue := by rw [same]; rfl
      _ = some latest := by rw [issue_after plan strict, refused, Option.some_or]
  exact ⟨left, stays, remembered_reported remembered⟩

/-- Two conditions are refused, with an accepted one between them. -/
def refusedTwice : List Change :=
  [.add ⟨.and, .value (.int 1), []⟩, .add ⟨.and, .fields (.ofList [("a", .int 3)]), []⟩,
    .add ⟨.and, .value (.int 2), []⟩]

/-- The plan is read and copied after that. Its copy refuses a condition as well, and the
hook of the plan returns no condition for the one that is added last. -/
def refusedTwiceInRun : List Action :=
  refusedTwice.map (.change 0) ++
    [.ask 0 2 .error, .copy 0, .change 1 (.add ⟨.or, .text "?", []⟩), .change 0 (.table "t"),
      .change 0 (.add ⟨.not, .fields (.ofList [("rank", .int 1)]), []⟩)]

/-- A plan that was read, copied and changed between and after two refusals ends with the second
one; what its copy refused is not reported. -/
theorem second_refusal_reported :
    (rememberingConfig.strict = true ∧
      (refusals (changesOf 0 refusedTwiceInRun)).getLast? =
        some (.invalid (.value (.int 2)) none)) ∧
      ∃ final log left, run [ofConfig rememberingConfig] refusedTwiceInRun = some (final, log) ∧
        final[0]? = some left ∧
        ∀ depth, left.ends depth = some (.error (.invalid (.value (.int 2)) none)) ∧
          left.shows .error depth = (left.builds depth).map fun _ =>
            .issue (some (.invalid (.value (.int 2)) none)) := by
  obtain ⟨left, stays, reported⟩ := latest_refusal_reported [ofConfig rememberingConfig] 0 _ rfl rfl
    refusedTwiceInRun _ _ rfl (.invalid (.value (.int 2)) none) rfl
  exact ⟨⟨rfl, rfl⟩, _, _, left, rfl, stays, reported⟩

/-- The refusal that came first is lost: neither is it shown nor does the plan end with
it. -/
theorem first_refusal_lost :
    ∃ first second, refusals refusedTwice = [first, second] ∧ first ≠ second ∧
      ((ofConfig strictConfig).after refusedTwice).shows .error 2 =
        some (.issue (some second)) ∧
      ((ofConfig strictConfig).after refusedTwice).ends 2 = some (.error second) := by
  refine ⟨_, _, rfl, ?_, rfl, rfl⟩
  simp [ConditionIssue.refusal]

end SqlCondition.Plan
