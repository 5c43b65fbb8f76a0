import SqlCondition.Proofs.Expression

/-!
# Reading expressions

Tokens are read from the left. The reader keeps, for every parenthesis that is open,
the alternatives before the last OR and the operands joined by AND since then. It
either waits for an operand or has just finished one; a token that does not fit ends
the reading without a result. Reading a row of tokens is reading its front and then
its back.

The reader finds exactly the expression that the grammar gives to a row of tokens, so
no row spells more than one.
-/

namespace SqlCondition

/-- What was read since the last open parenthesis before an operand: the alternatives
before the last OR, the operands joined by AND since then, and how many NOTs wait. -/
structure Level where
  alternatives : Option Expression
  factors : Option Expression
  negations : Nat

/-- How far the reading is. -/
inductive Reading
  /-- An operand must follow. -/
  | awaiting (level : Level) (outer : List Level)
  /-- A conjunction may go on, or end. -/
  | complete (alternatives : Option Expression) (conjunction : Expression) (outer : List Level)

namespace Reading

/-- The beginning of an expression. -/
def start (outer : List Level) : Reading := .awaiting ⟨none, none, 0⟩ outer

/-- An expression below so many NOTs. -/
def negated : Nat → Expression → Expression
  | 0, operand => operand
  | count + 1, operand => negated count (.not operand)

/-- An operand takes the NOTs before it and joins the operands before those. -/
def place (level : Level) (outer : List Level) (operand : Expression) : Reading :=
  .complete level.alternatives
    (Expression.behind .and level.factors (negated level.negations operand)) outer

/-- Read one token. -/
def step : Reading → Token → Option Reading
  | .awaiting level outer, .atom clause => some (place level outer (.atom clause))
  | .awaiting level outer, .not =>
      some (.awaiting { level with negations := level.negations + 1 } outer)
  | .awaiting level outer, .opening => some (start (level :: outer))
  | .complete alternatives conjunction outer, .and =>
      some (.awaiting ⟨alternatives, some conjunction, 0⟩ outer)
  | .complete alternatives conjunction outer, .or =>
      some (.awaiting ⟨some (Expression.behind .or alternatives conjunction), none, 0⟩ outer)
  | .complete alternatives conjunction (level :: outer), .closing =>
      some (place level outer (Expression.behind .or alternatives conjunction))
  | _, _ => none

/-- Read a row of tokens. -/
def read (reading : Reading) : List Token → Option Reading
  | [] => some reading
  | token :: rest => (reading.step token).bind fun next => next.read rest

/-- The expression that was read, when none of its parentheses is open. -/
def finish : Reading → Option Expression
  | .complete alternatives conjunction [] => some (Expression.behind .or alternatives conjunction)
  | _ => none

/-- A row of tokens is read piece by piece, the second piece from where the first one ends. -/
theorem read_append (reading : Reading) (front back : List Token) :
    reading.read (front ++ back) = (reading.read front).bind fun next => next.read back := by
  induction front generalizing reading with
  | nil => rfl
  | cons token rest inductionHypothesis =>
    simp only [List.cons_append, read, Option.bind_assoc]
    congr 1
    funext next
    exact inductionHypothesis next

end Reading

/-- The expression that a row of tokens is. -/
def Expression.parse (tokens : List Token) : Option Expression :=
  ((Reading.start []).read tokens).bind Reading.finish

namespace Expression

/-- How a row of tokens of a rank is read: an operand in any place, a conjunction behind
any alternatives, and a disjunction behind any open parentheses. -/
def Understood : Rank → List Token → Expression → Prop
  | .operand, tokens, expression => ∀ level outer,
      (Reading.awaiting level outer).read tokens = some (Reading.place level outer expression)
  | .conjunction, tokens, expression => ∀ alternatives outer,
      (Reading.awaiting ⟨alternatives, none, 0⟩ outer).read tokens =
        some (.complete alternatives expression outer)
  | .disjunction, tokens, expression => ∀ outer, ∃ alternatives conjunction,
      (Reading.start outer).read tokens = some (.complete alternatives conjunction outer) ∧
        behind .or alternatives conjunction = expression

/-- What is spelled is understood in every place where it may stand. By induction over the
spelling: each rule is one way in which the reading goes on. -/
theorem Spells.understood {rank : Rank} {tokens : List Token} {expression : Expression}
    (spells : Spells rank tokens expression) : Understood rank tokens expression := by
  induction spells with
  | atom clause =>
    intro level outer
    rfl
  | not inside inductionHypothesis =>
    intro level outer
    exact inductionHypothesis { level with negations := level.negations + 1 } outer
  | @enclosed tokens expression inside inductionHypothesis =>
    intro level outer
    obtain ⟨alternatives, conjunction, reads, same⟩ := inductionHypothesis (level :: outer)
    change (Reading.start (level :: outer)).read (tokens ++ [.closing]) = _
    rw [Reading.read_append, reads, ← same]
    rfl
  | single own inductionHypothesis =>
    intro alternatives outer
    exact inductionHypothesis ⟨alternatives, none, 0⟩ outer
  | and first second firstHypothesis secondHypothesis =>
    intro alternatives outer
    rw [Reading.read_append, firstHypothesis alternatives outer]
    exact secondHypothesis ⟨alternatives, some _, 0⟩ outer
  | alternative own inductionHypothesis =>
    intro outer
    exact ⟨none, _, inductionHypothesis none outer, rfl⟩
  | @or front back earlier last first second firstHypothesis secondHypothesis =>
    intro outer
    obtain ⟨alternatives, conjunction, reads, same⟩ := firstHypothesis outer
    refine ⟨some earlier, last, ?_, rfl⟩
    rw [Reading.read_append, reads, ← same]
    exact secondHypothesis (some _) outer

/-- What was read before a connective, together with the connective. -/
inductive Pending (rank : Rank) (word : Token) : Option Expression → List Token → Prop
  | nothing : Pending rank word none []
  | joined {earlier : Expression} {tokens : List Token} (spells : Spells rank tokens earlier) :
      Pending rank word (some earlier) (tokens ++ [word])

/-- Pending operands and one more are a conjunction, whether there were any or not. -/
theorem Pending.and {earlier : Option Expression} {front back : List Token} {last : Expression}
    (pending : Pending .conjunction .and earlier front) (own : Spells .operand back last) :
    Spells .conjunction (front ++ back) (behind .and earlier last) := by
  cases pending with
  | nothing => exact .single own
  | joined spells =>
    rw [List.append_assoc]
    exact .and spells own

/-- Pending alternatives and one more are a disjunction, whether there were any or not. -/
theorem Pending.or {earlier : Option Expression} {front back : List Token} {last : Expression}
    (pending : Pending .disjunction .or earlier front) (own : Spells .conjunction back last) :
    Spells .disjunction (front ++ back) (behind .or earlier last) := by
  cases pending with
  | nothing => exact .alternative own
  | joined spells =>
    rw [List.append_assoc]
    exact .or spells own

/-- An operand behind any number of NOTs is an operand, negated so many times. -/
theorem Spells.negated {tokens : List Token} {operand : Expression}
    (spells : Spells .operand tokens operand) (count : Nat) :
    Spells .operand (List.replicate count .not ++ tokens) (Reading.negated count operand) := by
  induction count generalizing tokens operand with
  | zero => exact spells
  | succ count inductionHypothesis =>
    have later := inductionHypothesis (.not spells)
    rw [List.append_cons, ← List.replicate_succ'] at later
    exact later

end Expression

open Expression

/-- The tokens of what a level remembers. -/
inductive Level.Remembers : Level → List Token → Prop
  | intro {alternatives factors : Option Expression} {front middle : List Token} (negations : Nat)
      (disjoined : Pending .disjunction .or alternatives front)
      (conjoined : Pending .conjunction .and factors middle) :
      Remembers ⟨alternatives, factors, negations⟩
        (front ++ (middle ++ List.replicate negations .not))

/-- At the beginning of an expression there is nothing to remember, at any level. -/
theorem Level.remembers_nothing : Level.Remembers ⟨none, none, 0⟩ [] := by
  have nothing := Level.Remembers.intro 0 (.nothing : Pending .disjunction .or none [])
    (.nothing : Pending .conjunction .and none [])
  exact nothing

/-- The tokens up to the last parenthesis that is open. -/
inductive Opened : List Level → List Token → Prop
  | nil : Opened [] []
  | cons {level : Level} {outer : List Level} {front back : List Token}
      (before : Opened outer front) (own : level.Remembers back) :
      Opened (level :: outer) (front ++ back ++ [.opening])

/-- The tokens that were read. -/
inductive Reading.Consumed : Reading → List Token → Prop
  | awaiting {level : Level} {outer : List Level} {front back : List Token}
      (before : Opened outer front) (own : level.Remembers back) :
      Consumed (.awaiting level outer) (front ++ back)
  | complete {alternatives : Option Expression} {conjunction : Expression} {outer : List Level}
      {front middle back : List Token} (before : Opened outer front)
      (pending : Pending .disjunction .or alternatives middle)
      (own : Spells .conjunction back conjunction) :
      Consumed (.complete alternatives conjunction outer) (front ++ (middle ++ back))

namespace Reading

/-- After an operand the tokens are those before it and its own. NOTs and operands that were
pending at its level have become part of what is complete. -/
theorem consumed_place {level : Level} {outer : List Level} {front back tokens : List Token}
    {operand : Expression} (before : Opened outer front) (remembered : level.Remembers back)
    (own : Spells .operand tokens operand) :
    (place level outer operand).Consumed (front ++ back ++ tokens) := by
  cases remembered with
  | @intro alternatives factors first second negations disjoined conjoined =>
    have whole := Consumed.complete before disjoined (conjoined.and (own.negated negations))
    simpa only [place, List.append_assoc] using whole

/-- Reading a token consumes it. This is the invariant of the reading: what is remembered and
what is open stands for exactly the tokens that were read. -/
theorem Consumed.step {reading next : Reading} {tokens : List Token} {token : Token}
    (consumed : reading.Consumed tokens) (stepped : reading.step token = some next) :
    next.Consumed (tokens ++ [token]) := by
  cases consumed with
  | @awaiting level outer front back before own =>
    cases token with
    | atom clause =>
      cases stepped
      exact consumed_place before own (.atom clause)
    | not =>
      cases stepped
      cases own with
      | @intro alternatives factors first second negations disjoined conjoined =>
        have more := Consumed.awaiting before (.intro (negations + 1) disjoined conjoined)
        simpa only [List.replicate_succ', List.append_assoc] using more
    | opening =>
      cases stepped
      have inside := Consumed.awaiting (.cons before own) Level.remembers_nothing
      simpa only [start, List.append_nil] using inside
    | and => cases stepped
    | or => cases stepped
    | closing => cases stepped
  | @complete alternatives conjunction outer front middle back before pending own =>
    cases token with
    | and =>
      cases stepped
      have more := Consumed.awaiting before (.intro 0 pending (.joined own))
      simpa only [List.replicate_zero, List.append_nil, List.append_assoc] using more
    | or =>
      cases stepped
      have more := Consumed.awaiting before (.intro 0 (.joined (pending.or own)) .nothing)
      simpa only [List.replicate_zero, List.append_nil, List.append_assoc] using more
    | closing =>
      cases before with
      | nil => cases stepped
      | @cons level outer first second before remembered =>
        cases stepped
        have operand := consumed_place before remembered (.enclosed (pending.or own))
        simpa only [List.append_assoc, List.cons_append, List.nil_append] using operand
    | atom clause => cases stepped
    | not => cases stepped
    | opening => cases stepped

/-- Reading a row of tokens consumes all of them, token by token. -/
theorem Consumed.read {reading final : Reading} {earlier tokens : List Token}
    (consumed : reading.Consumed earlier) (finished : reading.read tokens = some final) :
    final.Consumed (earlier ++ tokens) := by
  induction tokens generalizing reading earlier with
  | nil =>
    cases finished
    rw [List.append_nil]
    exact consumed
  | cons token rest inductionHypothesis =>
    obtain ⟨next, stepped, later⟩ := Option.bind_eq_some_iff.mp finished
    rw [List.append_cons]
    exact inductionHypothesis (consumed.step stepped) later

end Reading

/-- A row of tokens is read as an expression exactly when it spells it. The reading remembers
the tokens it consumed, so what it finishes with spells them, and what is spelled is understood.
So no row of tokens spells two expressions. -/
theorem Expression.parse_eq_some_iff (tokens : List Token) (expression : Expression) :
    parse tokens = some expression ↔ Spells .disjunction tokens expression := by
  constructor
  · intro parsed
    obtain ⟨final, reads, finished⟩ := Option.bind_eq_some_iff.mp parsed
    have beginning : (Reading.start []).Consumed [] := .awaiting .nil Level.remembers_nothing
    have consumed := beginning.read reads
    rw [List.nil_append] at consumed
    cases consumed with
    | awaiting before own => cases finished
    | complete before pending own =>
      cases before with
      | nil =>
        cases finished
        exact pending.or own
      | cons before remembered => cases finished
  · intro spells
    obtain ⟨alternatives, conjunction, reads, same⟩ := spells.understood []
    rw [parse, reads, ← same]
    rfl

/-- AND binds its operands before OR does, and NOT before AND. -/
example (first second third : Clause) :
    Expression.parse [.atom first, .or, .not, .atom second, .and, .atom third] =
      some (.or (.atom first) (.and (.not (.atom second)) (.atom third))) := rfl

end SqlCondition
