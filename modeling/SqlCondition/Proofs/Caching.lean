import SqlCondition.Proofs.History
import SqlCondition.Proofs.Strictness
import SqlCondition.Proofs.Termination

/-!
# What plans keep

A plan keeps what its conditions build, and the numbered form of it. It is fresh when
both are what would be worked out from its tree and its configuration as they are now.
A plan starts fresh with nothing kept, every change that is not ignored forgets both
results, and reading keeps only what it has just worked out. So every plan that can be
reached, by any changes, reads and copies, is fresh.

Of a fresh plan a read shows what it would show of the same plan with nothing kept. And
as long as nothing is forgotten, what is kept is worked out once: each time it is worked
out the log shows one clause that was built, after which nothing is due any more.
-/

namespace SqlCondition

/-! ## Answers at different depths -/

/-- One way of asking gives every answer of another one, at the same depth, and no
others: what it answers the other one answers too, at all depths that suffice. -/
structure Anticipates {α : Type} (early late : Nat → Option α) : Prop where
  gives : ∀ depth answer, late depth = some answer → early depth = some answer
  only : ∀ depth answer, early depth = some answer →
    ∃ enough, ∀ more, enough ≤ more → late more = some answer

namespace Anticipates

variable {α β : Type} {early late : Nat → Option α}

/-- Answers that stay the same at greater depths anticipate themselves. The depth of an answer
is one that suffices for it. -/
theorem refl (deeper : ∀ depth more answer, late depth = some answer →
    late (depth + more) = some answer) : Anticipates late late := by
  refine ⟨fun _ _ answered => answered, fun depth answer answered => ⟨depth, ?_⟩⟩
  intro more deep
  exact Nat.add_sub_of_le deep ▸ deeper depth (more - depth) answer answered

/-- An answer that is known at once, at any depth, anticipates the answers that come to it. At
least one depth must give it, and from there on it stays. -/
theorem known (deeper : ∀ depth more answer, late depth = some answer →
    late (depth + more) = some answer) {depth : Nat} {answer : α}
    (answered : late depth = some answer) : Anticipates (fun _ => some answer) late := by
  constructor
  · -- Both answers are given at the sum of the depths.
    intro other found same
    have first : late (depth + other) = some answer := deeper depth other answer answered
    have second : late (depth + other) = some found :=
      Nat.add_comm other depth ▸ deeper other depth found same
    exact first.symm.trans second
  · intro _ found same
    cases same
    exact (refl deeper).only depth answer answered

/-- Answers in another form anticipate each other when the answers themselves do, since both are
changed alike. -/
theorem map (anticipates : Anticipates early late) (change : α → β) :
    Anticipates (fun depth => (early depth).map change) (fun depth => (late depth).map change) := by
  constructor
  · intro depth answer answered
    obtain ⟨own, found, rfl⟩ := Option.map_eq_some_iff.mp answered
    exact Option.map_eq_some_iff.mpr ⟨own, anticipates.gives depth own found, rfl⟩
  · intro depth answer answered
    obtain ⟨own, found, rfl⟩ := Option.map_eq_some_iff.mp answered
    obtain ⟨enough, later⟩ := anticipates.only depth own found
    exact ⟨enough, fun more deep => Option.map_eq_some_iff.mpr ⟨own, later more deep, rfl⟩⟩

end Anticipates

namespace Plan

/-! ## What can be asked -/

/-- What can be asked of a plan. -/
inductive Question
  | build
  | sql
  | values
  | error
  | numbered
  | numberedSql
  | parameters
  deriving DecidableEq

/-- What a plan shows when it is asked. -/
inductive Shown
  | built (built : Built)
  | issue (issue : Option ConditionIssue)
  | clause (clause : Clause)
  | text (text : String)
  | values (values : List Value)

/-- Ask a plan. -/
def ask (plan : Plan) (depth : Nat) : Question → Option (Answer Shown)
  | .build => (plan.readBuilt depth).map (Answer.map .built)
  | .sql => (plan.readClause depth).map (Answer.map fun clause => .text clause.sql)
  | .values => (plan.readClause depth).map (Answer.map fun clause => .values clause.values)
  | .error => (plan.readIssue depth).map (Answer.map .issue)
  | .numbered => (plan.readNumbered depth).map (Answer.map .clause)
  | .numberedSql => (plan.readNumbered depth).map (Answer.map fun clause => .text clause.sql)
  | .parameters => (plan.readNumbered depth).map (Answer.map fun clause => .values clause.values)

/-- What a plan shows when it is asked at a depth. -/
def shows (plan : Plan) (question : Question) (depth : Nat) : Option Shown :=
  (plan.ask depth question).map Answer.value

/-- What a plan shows of what its conditions are built to. -/
def Question.view (remembered : Option ConditionIssue) : Question → Built → Shown
  | .build, result => .built result
  | .sql, result => .text result.clause.sql
  | .values, result => .values result.clause.values
  | .error, result => .issue (remembered.or result.issue)
  | .numbered, result => .clause (result.clause.numbered 0)
  | .numberedSql, result => .text (result.clause.numbered 0).sql
  | .parameters, result => .values (result.clause.numbered 0).values

/-- What a plan gives in the end, at a depth. -/
def ends (plan : Plan) (depth : Nat) : Option (Except ConditionIssue Clause) :=
  (plan.finish depth).map Prod.fst

/-- The end of a plan with an issue is the issue, and its clause without one. -/
def verdict : Option ConditionIssue → Clause → Except ConditionIssue Clause
  | some issue, _ => .error issue
  | none, clause => .ok clause

/-! ## What a read does -/

/-- What a read may do to a plan. Conditions, configuration and the remembered issue
stay. The conditions are built when that was not kept, and then it is; the numbered form
comes from what is kept. -/
structure Effect (plan : Plan) (events : List Event) (after : Plan) : Prop where
  root : after.root = plan.root
  config : after.config = plan.config
  issue : after.issue = plan.issue
  built : after.built = plan.built ∧ events = [] ∨
    plan.built = none ∧ ∃ depth built,
      build depth plan.config (.node plan.root) [] false = some (built, events) ∧
      after.built = some built
  numbered : after.numbered = plan.numbered ∨
    ∃ built, after.built = some built ∧ after.numbered = some (built.clause.numbered 0)

/-- Doing nothing is a read that found what it needed: everything stays and the log is empty. -/
theorem Effect.refl (plan : Plan) : Effect plan [] plan :=
  ⟨rfl, rfl, rfl, .inl ⟨rfl, rfl⟩, .inl rfl⟩

/-- Reading the clause with its issue builds it when it was not kept, logs that once, and keeps
it. When it was kept nothing is built or logged. -/
theorem read_built_effect {plan : Plan} {depth : Nat} {answer : Answer Built}
    (finished : plan.readBuilt depth = some answer) :
    Effect plan answer.events answer.plan ∧ answer.plan.built = some answer.value := by
  unfold readBuilt at finished
  cases kept : plan.built with
  | some built =>
    simp only [kept, Option.some.injEq] at finished
    subst finished
    exact ⟨.refl plan, kept⟩
  | none =>
    simp only [kept, Option.map_eq_some_iff] at finished
    obtain ⟨⟨built, events⟩, worked, rfl⟩ := finished
    exact ⟨⟨rfl, rfl, rfl, .inr ⟨kept, depth, built, worked, rfl⟩, .inl rfl⟩, rfl⟩

/-- Reading the numbered clause reads the clause first, and then keeps the numbered form of it,
unless that was kept already. -/
theorem read_numbered_effect {plan : Plan} {depth : Nat} {answer : Answer Clause}
    (finished : plan.readNumbered depth = some answer) :
    Effect plan answer.events answer.plan := by
  unfold readNumbered at finished
  cases kept : plan.numbered with
  | some clause =>
    simp only [kept, Option.some.injEq] at finished
    subst finished
    exact .refl plan
  | none =>
    simp only [kept, Option.map_eq_some_iff] at finished
    obtain ⟨inner, read, rfl⟩ := finished
    obtain ⟨effect, shown⟩ := read_built_effect read
    exact ⟨effect.root, effect.config, effect.issue, effect.built, .inr ⟨inner.value, shown, rfl⟩⟩

/-- Whatever a plan is asked, it is a read of its clause or of its numbered form, and so has the
effect of one. -/
theorem ask_effect {plan : Plan} {depth : Nat} {question : Question} {answer : Answer Shown}
    (finished : plan.ask depth question = some answer) :
    Effect plan answer.events answer.plan := by
  cases question with
  | build =>
    obtain ⟨inner, read, rfl⟩ := Option.map_eq_some_iff.mp finished
    exact (read_built_effect read).1
  | sql | values | error =>
    obtain ⟨middle, read, rfl⟩ := Option.map_eq_some_iff.mp finished
    obtain ⟨inner, readBuilt, rfl⟩ := Option.map_eq_some_iff.mp read
    exact (read_built_effect readBuilt).1
  | numbered | numberedSql | parameters =>
    obtain ⟨inner, read, rfl⟩ := Option.map_eq_some_iff.mp finished
    exact read_numbered_effect read

/-! ## Freshness -/

/-- What is kept is what would be worked out now. -/
structure Fresh (plan : Plan) : Prop where
  built : ∀ built, plan.built = some built →
    ∃ depth events, build depth plan.config (.node plan.root) [] false = some (built, events)
  numbered : ∀ clause, plan.numbered = some clause →
    ∃ built, plan.built = some built ∧ clause = built.clause.numbered 0

/-- A plan with nothing kept is fresh, for there is nothing in it that could be out of date. -/
theorem fresh_forget (plan : Plan) : plan.forget.Fresh :=
  ⟨fun _ kept => (nomatch kept), fun _ kept => (nomatch kept)⟩

/-- Reading keeps a plan fresh. Conditions and configuration stay, so that what was built then
would be built now, and the numbered form comes from it. -/
theorem Fresh.read {plan after : Plan} {events : List Event} (fresh : plan.Fresh)
    (effect : Effect plan events after) : after.Fresh := by
  constructor
  · intro built kept
    rw [effect.config, effect.root]
    rcases effect.built with ⟨same, _⟩ | ⟨_, depth, worked, finished, keeps⟩
    · exact fresh.built built (same ▸ kept)
    · cases keeps.symm.trans kept
      exact ⟨depth, events, finished⟩
  · intro clause kept
    rcases effect.numbered with same | ⟨built, shown, keeps⟩
    · -- Where the numbered form was kept the clause was too, so it was not built again.
      obtain ⟨built, shown, numbered⟩ := fresh.numbered clause (same ▸ kept)
      rcases effect.built with ⟨sameBuilt, _⟩ | ⟨absent, _⟩
      · exact ⟨built, sameBuilt.trans shown, numbered⟩
      · cases absent.symm.trans shown
    · cases keeps.symm.trans kept
      exact ⟨built, shown, rfl⟩

/-- Every change keeps a plan fresh. One that clears leaves nothing kept, and any other leaves
the plan as it was. -/
theorem Fresh.apply {plan : Plan} (fresh : plan.Fresh) (change : Change) :
    (plan.apply change).1.Fresh := by
  cases clears : change.clears plan.config.strict with
  | true => exact plan.apply_clears change clears ▸ fresh_forget _
  | false => exact (plan.apply_ignored change clears).1.symm ▸ fresh

/-! ## Answers of fresh plans -/

/-- What the conditions are built to, at a depth. -/
def builds (plan : Plan) (depth : Nat) : Option Built :=
  (plan.readBuilt depth).map Answer.value

/-- With nothing kept the conditions are built anew, from the root and the configuration alone. -/
theorem builds_forget (plan : Plan) (depth : Nat) :
    plan.forget.builds depth =
      (build depth plan.config (.node plan.root) [] false).map Prod.fst := by
  simp only [builds, readBuilt, forget, Option.map_map]
  rfl

/-- What is built anew stays the same at any greater depth, because more depth never changes an
outcome of a reduction. -/
theorem builds_forget_deeper (plan : Plan) (depth more : Nat) (built : Built)
    (finished : plan.forget.builds depth = some built) :
    plan.forget.builds (depth + more) = some built := by
  rw [builds_forget, Option.map_eq_some_iff] at finished ⊢
  obtain ⟨result, worked, rfl⟩ := finished
  exact ⟨result, build_deeper plan.config depth more _ [] false result worked, rfl⟩

/-- A fresh plan has its conditions built as they are built anew. If they are kept, freshness
gives a depth at which they come out alike; otherwise both do the same. -/
theorem Fresh.builds {plan : Plan} (fresh : plan.Fresh) :
    Anticipates plan.builds plan.forget.builds := by
  cases kept : plan.built with
  | none =>
    have same : plan.builds = plan.forget.builds := by
      funext depth
      rw [builds_forget]
      simp only [Plan.builds, readBuilt, kept, Option.map_map]
      rfl
    rw [same]
    exact .refl plan.builds_forget_deeper
  | some built =>
    have atOnce : plan.builds = fun _ => some built := by
      funext depth
      simp only [Plan.builds, readBuilt, kept, Option.map_some]
    obtain ⟨depth, events, worked⟩ := fresh.built built kept
    have anew : plan.forget.builds depth = some built := by
      rw [builds_forget, worked, Option.map_some]
    exact atOnce ▸ .known plan.builds_forget_deeper anew

/-- The numbered form that a fresh plan shows is the numbering of its clause from one on, kept
or worked out now. -/
theorem Fresh.numbers {plan : Plan} (fresh : plan.Fresh) (depth : Nat) :
    (plan.readNumbered depth).map Answer.value =
      (plan.builds depth).map fun result => result.clause.numbered 0 := by
  cases kept : plan.numbered with
  | none =>
    simp only [readNumbered, kept, Plan.builds, Option.map_map]
    rfl
  | some clause =>
    obtain ⟨built, shown, rfl⟩ := fresh.numbered clause kept
    simp only [readNumbered, kept, Plan.builds, readBuilt, shown, Option.map_some]

/-- Whatever a fresh plan is asked, it shows a view of what its conditions are built to and of
the issue that it remembers. Seven questions come down to one. -/
theorem Fresh.shows {plan : Plan} (fresh : plan.Fresh) (question : Question) (depth : Nat) :
    plan.shows question depth = (plan.builds depth).map (question.view plan.issue) := by
  have numbered (change : Clause → Shown) :
      ((plan.readNumbered depth).map (Answer.map change)).map Answer.value =
        (plan.builds depth).map fun result => change (result.clause.numbered 0) := by
    calc ((plan.readNumbered depth).map (Answer.map change)).map Answer.value
        = ((plan.readNumbered depth).map Answer.value).map change := by
          simp only [Option.map_map]
          rfl
      _ = (plan.builds depth).map fun result => change (result.clause.numbered 0) := by
          rw [fresh.numbers, Option.map_map]
          rfl
  cases question with
  | build | sql | values | error =>
    simp only [Plan.shows, ask, readClause, readIssue, Plan.builds, Option.map_map]
    rfl
  | numbered | numberedSql | parameters => exact numbered _

/-- A fresh plan shows what it would show with nothing kept. The view is the same, and what is
viewed is anticipated. -/
theorem Fresh.shows_anew {plan : Plan} (fresh : plan.Fresh) (question : Question) :
    Anticipates (plan.shows question) (plan.forget.shows question) := by
  have own : plan.shows question =
      fun depth => (plan.builds depth).map (question.view plan.issue) :=
    funext (fresh.shows question)
  have anew : plan.forget.shows question =
      fun depth => (plan.forget.builds depth).map (question.view plan.issue) :=
    funext (plan.fresh_forget.shows question)
  exact own ▸ anew ▸ fresh.builds.map (question.view plan.issue)

/-- The end of a plan is its issue, the remembered one before the one of building, or else its
clause. A plan that remembers an issue is not built for it. -/
theorem ends_eq (plan : Plan) (depth : Nat) :
    plan.ends depth = plan.issue.elim
      ((plan.builds depth).map fun result => verdict result.issue result.clause)
      fun issue => some (.error issue) := by
  cases remembered : plan.issue with
  | some issue => simp only [ends, finish, remembered, Option.map_some, Option.elim_some]
  | none =>
    have same : ∀ result : Built, result.result = verdict result.issue result.clause := by
      intro result
      unfold Built.result verdict
      cases result.issue <;> rfl
    simp only [ends, finish, remembered, Plan.builds, Option.elim_none, Option.map_map]
    exact congrArg (Option.map · _) (funext fun answer => same answer.value)

/-- A fresh plan ends as it would end with nothing kept, with the same issue or the same clause. -/
theorem Fresh.ends_anew {plan : Plan} (fresh : plan.Fresh) :
    Anticipates plan.ends plan.forget.ends := by
  have remembered : plan.forget.issue = plan.issue := rfl
  rw [funext plan.ends_eq, funext plan.forget.ends_eq, remembered]
  cases plan.issue with
  | some issue =>
    simp only [Option.elim_some]
    exact .refl fun _ _ _ answered => answered
  | none =>
    simp only [Option.elim_none]
    exact fresh.builds.map fun result => verdict result.issue result.clause

/-- Where the issue of a plan is shown, so are its text and values, and the plan ends
with the issue or with these. -/
theorem ends_as_shown (plan : Plan) (depth : Nat) (issue : Option ConditionIssue)
    (shown : plan.shows .error depth = some (.issue issue)) :
    ∃ clause, plan.shows .sql depth = some (.text clause.sql) ∧
      plan.shows .values depth = some (.values clause.values) ∧
      plan.ends depth = some (verdict issue clause) := by
  simp only [Plan.shows, ask, readIssue, Option.map_map, Option.map_eq_some_iff] at shown
  obtain ⟨answer, read, same⟩ := shown
  cases same
  refine ⟨answer.value.clause, ?_, ?_, ?_⟩
  · simp only [Plan.shows, ask, readClause, read]
    rfl
  · simp only [Plan.shows, ask, readClause, read]
    rfl
  · rw [ends_eq, Plan.builds, read]
    cases plan.issue <;> rfl

/-! ## The log of built clauses -/

/-- How many built clauses a log shows. -/
def traces (events : List Event) : Nat := events.countP fun event => event.severity = .trace

/-- The built clauses of two logs one after another are those of both. -/
theorem traces_append (front back : List Event) :
    traces (front ++ back) = traces front + traces back :=
  List.countP_append

/-- A log without entries of the least severity shows no built clause, for only built clauses
have it. -/
theorem traces_eq_zero {events : List Event} (quiet : ∀ event ∈ events, event.severity ≠ .trace) :
    traces events = 0 :=
  List.countP_eq_zero.mpr fun event shown => by simp [quiet event shown]

/-- The log of a reduction shows no built clause. Its entries are parts left out and aliases
that lead nowhere, and they have other severities. -/
theorem reported_untraced (config : Config) : Reported config fun _ events => traces events = 0 where
  nothing := rfl
  followed earlier _ later first second := by rw [traces_append, first, second]
  refused issue := by
    unfold Outcome.refused
    split <;> rfl
  searched name value := by
    refine traces_eq_zero fun event shown => ?_
    rw [config.operators.select_warns name value event shown]
    decide

/-- The log of building a clause shows this clause and no other: it is noted behind the entries
of the reduction, which show none. -/
theorem traces_of_build {config : Config} {depth : Nat} {input : Input} {values : List Value}
    {negated : Bool} {built : Built} {events : List Event}
    (finished : build depth config input values negated = some (built, events)) :
    traces events = 1 := by
  have once (outcome : Outcome) (untraced : traces outcome.events = 0) :
      traces (Built.ofOutcome outcome).2 = 1 := by
    rw [Built.ofOutcome, traces_append, untraced]
    rfl
  unfold build at finished
  split at finished
  · obtain ⟨outcome, reduced, same⟩ := Option.map_eq_some_iff.mp finished
    have untraced := (reported_untraced config).of_reduce depth _ outcome reduced
    simpa only [same] using once outcome untraced
  · rename_i issue _
    have same := Option.some.inj finished
    simpa only [same] using once _ ((reported_untraced config).refused issue)

/-- How many clauses are still to be built before something is forgotten. -/
def due (plan : Plan) : Nat := if plan.built.isSome then 0 else 1

/-- A read builds no more than is due. With the clause kept it builds none; otherwise it builds
one, keeps it, and nothing is due any longer. -/
theorem Effect.traces_due {plan after : Plan} {events : List Event}
    (effect : Effect plan events after) : traces events + after.due ≤ plan.due := by
  rcases effect.built with ⟨same, rfl⟩ | ⟨absent, depth, built, finished, keeps⟩
  · simp [due, same, traces]
  · simp [due, absent, keeps, traces_of_build finished]

/-- The end of a plan builds no more than is due either, for it reads the clause at most once. -/
theorem finish_due {plan : Plan} {depth : Nat} {result : Except ConditionIssue Clause}
    {events : List Event} (finished : plan.finish depth = some (result, events)) :
    traces events ≤ plan.due := by
  unfold finish at finished
  split at finished
  · cases finished
    exact Nat.zero_le _
  · obtain ⟨answer, read, same⟩ := Option.map_eq_some_iff.mp finished
    cases same
    exact Nat.le_trans (Nat.le_add_right _ _) (read_built_effect read).1.traces_due

/-! ## Several plans at once -/

/-- What is done with one of several plans. -/
inductive Action
  | change (index : Nat) (change : Change)
  | ask (index depth : Nat) (question : Question)
  | copy (index : Nat)

namespace Action

def index : Action → Nat
  | .change index _ | .ask index _ _ | .copy index => index

/-- What becomes of this plan, and what the log shows. -/
def on (plan : Plan) : Action → Option (Plan × List Event)
  | .change _ requested => some (plan.apply requested)
  | .ask _ depth question =>
      (plan.ask depth question).map fun answer => (answer.plan, answer.events)
  | .copy _ => some (plan, [])

/-- The plans that are new. A copy keeps what the plan keeps. -/
def copies (plan : Plan) : Action → List Plan
  | .copy _ => [plan]
  | .change _ _ | .ask _ _ _ => []

/-- Nothing becomes of a fresh plan but a fresh one, whether it is changed, asked or copied. -/
theorem on_fresh {action : Action} {plan after : Plan} {events : List Event} (fresh : plan.Fresh)
    (done : action.on plan = some (after, events)) : after.Fresh := by
  cases action with
  | change index change =>
    have same : plan.apply change = (after, events) := Option.some.inj done
    have applied : (plan.apply change).1.Fresh := fresh.apply change
    rwa [same] at applied
  | ask index depth question =>
    obtain ⟨answer, asked, same⟩ := Option.map_eq_some_iff.mp done
    cases same
    exact fresh.read (ask_effect asked)
  | copy index =>
    cases done
    exact fresh

/-- As long as nothing is forgotten no more is built than is due, and the configuration
stays. -/
theorem on_due {action : Action} {plan after : Plan} {events : List Event}
    (kept : ∀ index change, action = .change index change →
      change.clears plan.config.strict = false)
    (done : action.on plan = some (after, events)) :
    traces events + after.due ≤ plan.due ∧ after.config = plan.config := by
  cases action with
  | change index change =>
    have same : plan.apply change = (after, events) := Option.some.inj done
    obtain ⟨unchanged, quiet⟩ := plan.apply_ignored change (kept index change rfl)
    rw [same] at unchanged quiet
    have left : after = plan := unchanged
    rw [left, traces_eq_zero quiet, Nat.zero_add]
    exact ⟨Nat.le_refl _, rfl⟩
  | ask index depth question =>
    obtain ⟨answer, asked, same⟩ := Option.map_eq_some_iff.mp done
    cases same
    exact ⟨(ask_effect asked).traces_due, (ask_effect asked).config⟩
  | copy index =>
    cases done
    exact ⟨Nat.le_of_eq (Nat.zero_add _), rfl⟩

end Action

/-- Do something with one of several plans. -/
def perform (pool : List Plan) (action : Action) : Option (List Plan × List Event) :=
  match pool[action.index]? with
  | none => none
  | some plan =>
      (action.on plan).map fun done =>
        (pool.set action.index done.1 ++ action.copies plan, done.2)

/-- Do one thing after another. The log shows with which plan. -/
def run : List Plan → List Action → Option (List Plan × List (Nat × Event))
  | pool, [] => some (pool, [])
  | pool, action :: rest =>
      match perform pool action with
      | none => none
      | some (reached, events) =>
          (run reached rest).map fun final =>
            (final.1, events.map (fun event => (action.index, event)) ++ final.2)

/-- Something is done with a plan that is there. It takes the place of the plan, and
copies stand behind all others. -/
theorem perform_eq_some {pool after : List Plan} {action : Action} {events : List Event}
    (done : perform pool action = some (after, events)) :
    ∃ subject left, pool[action.index]? = some subject ∧
      action.on subject = some (left, events) ∧
      after = pool.set action.index left ++ action.copies subject := by
  unfold perform at done
  split at done
  · cases done
  · rename_i subject present
    obtain ⟨⟨left, log⟩, acted, same⟩ := Option.map_eq_some_iff.mp done
    cases same
    exact ⟨subject, left, present, acted, rfl⟩

/-- A run does the first thing and goes on from there. Its log is that of the first action,
marked with its plan, and the log of the rest behind it. -/
theorem run_cons_eq_some {pool final : List Plan} {action : Action} {rest : List Action}
    {log : List (Nat × Event)} (finished : run pool (action :: rest) = some (final, log)) :
    ∃ reached events later, perform pool action = some (reached, events) ∧
      run reached rest = some (final, later) ∧
      log = events.map (fun event => (action.index, event)) ++ later := by
  unfold run at finished
  split at finished
  · cases finished
  · rename_i reached events done
    obtain ⟨⟨last, later⟩, continued, same⟩ := Option.map_eq_some_iff.mp finished
    cases same
    exact ⟨reached, events, later, done, continued, rfl⟩

/-- What is done with one of several fresh plans leaves all of them fresh, and a copy too, for a
copy keeps what its plan keeps. -/
theorem perform_fresh {pool after : List Plan} {action : Action} {events : List Event}
    (fresh : ∀ plan ∈ pool, plan.Fresh) (done : perform pool action = some (after, events)) :
    ∀ plan ∈ after, plan.Fresh := by
  obtain ⟨subject, left, present, acted, rfl⟩ := perform_eq_some done
  have own : subject.Fresh := fresh subject (List.mem_of_getElem? present)
  intro plan member
  rcases List.mem_append.mp member with inside | copied
  · rcases List.mem_or_eq_of_mem_set inside with earlier | rfl
    · exact fresh plan earlier
    · exact Action.on_fresh own acted
  · cases action with
    | copy index => exact List.mem_singleton.mp copied ▸ own
    | change index change => cases copied
    | ask index depth question => cases copied

/-- Plans that are fresh before a run are fresh behind it, by induction over what is done. -/
theorem run_fresh {actions : List Action} {pool final : List Plan} {log : List (Nat × Event)}
    (fresh : ∀ plan ∈ pool, plan.Fresh) (finished : run pool actions = some (final, log)) :
    ∀ plan ∈ final, plan.Fresh := by
  induction actions generalizing pool log with
  | nil =>
    cases finished
    exact fresh
  | cons action rest inductionHypothesis =>
    obtain ⟨reached, events, later, done, continued, _⟩ := run_cons_eq_some finished
    exact inductionHypothesis (perform_fresh fresh done) continued

/-- How many built clauses a common log shows for one of the plans. -/
def tracesOf (index : Nat) (log : List (Nat × Event)) : Nat :=
  log.countP fun entry => entry.1 = index ∧ entry.2.severity = .trace

/-- In the log of one action only its own plan counts, so the clauses that are shown for another
plan are those of the rest of the log. -/
theorem traces_of_action (index : Nat) (action : Action) (events : List Event)
    (later : List (Nat × Event)) :
    tracesOf index (events.map (fun event => (action.index, event)) ++ later) =
      (if action.index = index then traces events else 0) + tracesOf index later := by
  simp only [tracesOf, traces, List.countP_append, List.countP_map, Function.comp_def]
  split
  · rename_i own
    simp only [own, true_and]
  · rename_i other
    simp only [other, false_and, decide_false, List.countP_false, Function.const_apply]

/-- What is done with several plans is done with one of them, and leaves the others
alone. -/
theorem perform_at {pool after : List Plan} {action : Action} {events : List Event} {index : Nat}
    {plan : Plan} (present : pool[index]? = some plan)
    (done : perform pool action = some (after, events)) :
    ∃ left, after[index]? = some left ∧
      (action.index = index ∧ action.on plan = some (left, events) ∨
        action.index ≠ index ∧ left = plan) := by
  obtain ⟨inside, _⟩ := List.getElem?_eq_some_iff.mp present
  obtain ⟨subject, left, found, acted, rfl⟩ := perform_eq_some done
  have set : index < (pool.set action.index left).length := by simpa using inside
  rw [List.getElem?_append_left set]
  by_cases own : action.index = index
  · subst own
    cases found.symm.trans present
    exact ⟨left, List.getElem?_set_self inside, .inl ⟨rfl, acted⟩⟩
  · exact ⟨plan, (List.getElem?_set_ne own).trans present, .inr ⟨own, rfl⟩⟩

/-- One action builds no more for a plan than is due, and what it builds is due no longer.
Changes of this plan must not clear it; other plans may be changed at will. -/
theorem perform_due {pool after : List Plan} {action : Action} {events : List Event}
    {index : Nat} {plan : Plan} (present : pool[index]? = some plan)
    (kept : ∀ change, action = .change index change → change.clears plan.config.strict = false)
    (done : perform pool action = some (after, events)) :
    ∃ left, after[index]? = some left ∧ left.config = plan.config ∧
      (if action.index = index then traces events else 0) + left.due ≤ plan.due := by
  obtain ⟨left, stays, ⟨rfl, acted⟩ | ⟨other, rfl⟩⟩ := perform_at present done
  · obtain ⟨spent, config⟩ := Action.on_due
      (fun index change first => kept change (by subst first; rfl)) acted
    exact ⟨left, stays, config, by rwa [if_pos rfl]⟩
  · have nothing : (if action.index = index then traces events else 0) = 0 := if_neg other
    exact ⟨left, stays, rfl, Nat.le_of_eq (by rw [nothing, Nat.zero_add])⟩

/-- As long as nothing is forgotten a run builds no more for a plan than is due. -/
theorem run_due {index : Nat} {actions : List Action} {pool final : List Plan}
    {log : List (Nat × Event)} {plan : Plan} (present : pool[index]? = some plan)
    (kept : ∀ change, .change index change ∈ actions → change.clears plan.config.strict = false)
    (finished : run pool actions = some (final, log)) :
    ∃ last, final[index]? = some last ∧ tracesOf index log + last.due ≤ plan.due := by
  induction actions generalizing pool log plan with
  | nil =>
    cases finished
    exact ⟨plan, present, Nat.le_of_eq (Nat.zero_add _)⟩
  | cons action rest inductionHypothesis =>
    obtain ⟨reached, events, later, done, continued, rfl⟩ := run_cons_eq_some finished
    obtain ⟨left, stays, sameConfig, spent⟩ := perform_due present
      (fun change first => kept change (first ▸ List.mem_cons_self)) done
    obtain ⟨last, ends, remaining⟩ := inductionHypothesis stays
      (fun change inside => sameConfig ▸ kept change (List.mem_cons_of_mem action inside)) continued
    refine ⟨last, ends, ?_⟩
    rw [traces_of_action]
    omega

/-- Kept results are never stale. In every state that several plans reach from one
without conditions, each plan is fresh, shows whatever it is asked and ends as it would
with nothing kept, and ends with the issue that it shows or with its text and values.
As long as no change makes it forget, its conditions are built at most once, its end
included.

Freshness is kept by every action and so by every run, and the answers follow from it.
For the last part a run spends on each plan no more than is due, which is one clause at
first and none once the clause is kept. -/
theorem kept_results_never_stale (config : Config) (actions : List Action) (pool : List Plan)
    (log : List (Nat × Event)) (reached : run [ofConfig config] actions = some (pool, log))
    (index : Nat) (plan : Plan) (present : pool[index]? = some plan) :
    plan.Fresh ∧
      (∀ question, Anticipates (plan.shows question) (plan.forget.shows question)) ∧
      Anticipates plan.ends plan.forget.ends ∧
      (∀ depth issue, plan.shows .error depth = some (.issue issue) →
        ∃ clause, plan.shows .sql depth = some (.text clause.sql) ∧
          plan.shows .values depth = some (.values clause.values) ∧
          plan.ends depth = some (verdict issue clause)) ∧
      ∀ more final later, run pool more = some (final, later) →
        (∀ change, .change index change ∈ more → change.clears plan.config.strict = false) →
        tracesOf index later ≤ 1 ∧
          ∃ last, final[index]? = some last ∧
            ∀ depth result events, last.finish depth = some (result, events) →
              tracesOf index later + traces events ≤ 1 := by
  have start : ∀ plan ∈ [ofConfig config], plan.Fresh := by
    intro plan member
    rw [List.mem_singleton.mp member]
    exact fresh_forget (ofConfig config)
  have fresh : plan.Fresh := run_fresh start reached plan (List.mem_of_getElem? present)
  refine ⟨fresh, fresh.shows_anew, fresh.ends_anew, plan.ends_as_shown, ?_⟩
  intro more final later continued kept
  obtain ⟨last, ends, spent⟩ := run_due present kept continued
  have once : plan.due ≤ 1 := by
    unfold due
    split <;> decide
  refine ⟨by omega, last, ends, fun depth result events finished => ?_⟩
  have atEnd : traces events ≤ last.due := finish_due finished
  omega

/-- A strict configuration with a hook that returns no condition. -/
def rememberingConfig : Config :=
  (Config.default.withOptions { Options.default with strict := true }).withHook "rank"
    fun _ _ _ => some (.value .null)

/-- A plan is read and copied. Then the plan refuses a condition, and the copy gets a
table and a condition that its hook makes an issue. -/
def copiedPlan : List Action :=
  [.change 0 (.add ⟨.and, .fields (.ofList [("age", .int 18)]), []⟩), .ask 0 2 .numberedSql,
    .copy 0, .change 0 (.add ⟨.or, .value (.int 3), []⟩), .ask 0 2 .error,
    .change 1 (.table "people"),
    .change 1 (.add ⟨.not, .fields (.ofList [("name", .text "x"), ("rank", .int 1)]), []⟩)]

/-- The copy is read several times. -/
def severalReads : List Action := [.ask 1 3 .parameters, .ask 0 2 .values, .ask 1 3 .error]

/-- A plan is read, copied and then changed, and so is its copy. The copy is fresh, shows its
own table and condition, and ends with the issue of its hook. -/
theorem copied_plan_never_stale :
    ∃ pool log plan, run [ofConfig rememberingConfig] copiedPlan = some (pool, log) ∧
      pool[1]? = some plan ∧ plan.Fresh ∧
      (∀ question, Anticipates (plan.shows question) (plan.forget.shows question)) ∧
      Anticipates plan.ends plan.forget.ends ∧
      plan.shows .sql 3 =
        some (.text "(\"people\".\"age\" = ?) AND NOT (\"people\".\"name\" = ?)") ∧
      plan.ends 3 = some (.error (.invalid (.value .null) none)) ∧
      ∃ final later, run pool severalReads = some (final, later) ∧ tracesOf 1 later ≤ 1 ∧
        ∃ last, final[1]? = some last ∧ ∀ result events,
          last.finish 3 = some (result, events) → tracesOf 1 later + traces events ≤ 1 := by
  obtain ⟨fresh, shows, ends, asShown, once⟩ :=
    kept_results_never_stale rememberingConfig copiedPlan _ _ rfl 1 _ rfl
  obtain ⟨_, _, _, ended⟩ := asShown 3 (some (.invalid (.value .null) none)) rfl
  obtain ⟨bounded, last, found, atEnd⟩ := once severalReads _ _ rfl
    fun change asked => by simp [severalReads] at asked
  exact ⟨_, _, _, rfl, rfl, fresh, shows, ends, rfl, ended, _, _, rfl, bounded, last, found,
    atEnd 3⟩

end Plan

end SqlCondition
