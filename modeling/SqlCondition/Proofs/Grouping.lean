import SqlCondition.Proofs.Induction
import SqlCondition.Proofs.Lexing
import SqlCondition.Proofs.Reading

/-!
# Which clauses keep together

A clause is read on its own as alternatives of operands: OR stands between the
alternatives, and AND between the operands of one. When AND is put between two clauses,
the operands of the last alternative of the first and those of the first alternative of
the second become one alternative. So the clauses keep together when each of them is a
single alternative, and when one has several, those further away from the AND are no
longer bound by it.

In parentheses a clause is a single operand. This is why everything that nodes are reduced
to is a single alternative: raw SQL, disjunctions and mappings stand in parentheses, and a
conjunction without any has such parts only.
-/

namespace SqlCondition

open Expression

/-- Alternatives of operands that must hold together. -/
abbrev Alternatives := List (List Expression)

namespace Alternatives

/-- Whether all operands of some alternative hold. -/
def holds (assignment : Clause → Bool) (alternatives : Alternatives) : Bool :=
  alternatives.any fun operands => operands.all (eval assignment)

/-- What alternatives become beside AND: the last of the first ones and the first of the
second ones become one. -/
def beside : Alternatives → Alternatives → Alternatives
  | [], later => later
  | [operands], first :: rest => (operands ++ first) :: rest
  | operands :: rest, later => operands :: beside rest later

/-- What alternatives become with a connective between them. -/
def combine : Connective → Alternatives → Alternatives → Alternatives
  | .and, first, second => beside first second
  | .or, first, second => first ++ second

/-- Nothing behind a connective changes nothing, for AND as for OR. -/
@[simp]
theorem combine_nil (connective : Connective) (alternatives : Alternatives) :
    combine connective alternatives [] = alternatives := by
  cases connective with
  | or => exact List.append_nil alternatives
  | and =>
    rw [combine]
    induction alternatives with
    | nil => rfl
    | cons operands rest inductionHypothesis => rw [beside, inductionHypothesis]; simp

/-- A single alternative stays one beside AND: its operands and those of the other become one
row. -/
theorem length_beside {first second : Alternatives} (one : first.length = 1)
    (other : second.length = 1) : (combine .and first second).length = 1 := by
  obtain ⟨operands, rfl⟩ := List.length_eq_one_iff.mp one
  obtain ⟨others, rfl⟩ := List.length_eq_one_iff.mp other
  rfl

/-- Beside AND two single alternatives hold together. With more than one alternative this fails,
as AND binds only the neighbours. -/
theorem holds_beside (assignment : Clause → Bool) {first second : Alternatives}
    (one : first.length = 1) (other : second.length = 1) :
    holds assignment (combine .and first second) =
      (holds assignment first && holds assignment second) := by
  obtain ⟨operands, rfl⟩ := List.length_eq_one_iff.mp one
  obtain ⟨others, rfl⟩ := List.length_eq_one_iff.mp other
  simp [holds, combine, beside]

/-- What a connective keeps, several alternatives keep with the connective between them. There
must be some, because nothing need not be of the kind. -/
theorem foldr_combine {kind : Alternatives → Prop} (connective : Connective)
    (kept : ∀ first second, kind first → kind second → kind (combine connective first second))
    {readings : List Alternatives} (kinds : ∀ alternatives ∈ readings, kind alternatives)
    (spoken : readings ≠ []) : kind (readings.foldr (combine connective) []) := by
  induction readings with
  | nil => exact absurd rfl spoken
  | cons alternatives rest inductionHypothesis =>
    obtain ⟨own, others⟩ := List.forall_mem_cons.mp kinds
    rw [List.foldr_cons]
    by_cases last : rest = []
    · rw [last, List.foldr_nil, combine_nil]
      exact own
    · exact kept _ _ own (inductionHypothesis others last)

/-- Beside AND single alternatives hold together, however many there are. -/
theorem holds_foldr_beside (assignment : Clause → Bool) {readings : List Alternatives}
    (single : ∀ alternatives ∈ readings, alternatives.length = 1) (spoken : readings ≠ []) :
    holds assignment (readings.foldr (combine .and) []) = readings.all (holds assignment) := by
  induction readings with
  | nil => exact absurd rfl spoken
  | cons alternatives rest inductionHypothesis =>
    obtain ⟨own, others⟩ := List.forall_mem_cons.mp single
    rw [List.foldr_cons]
    by_cases last : rest = []
    · simp [last]
    · have later := foldr_combine .and (fun _ _ => length_beside) others last
      rw [holds_beside assignment own later, inductionHypothesis others last, List.all_cons]

end Alternatives

open Alternatives

namespace Expression

/-- A row of tokens spells operands joined by AND. -/
inductive SpellsAll : List Token → List Expression → Prop
  | single {tokens : List Token} {operand : Expression} (own : Spells .operand tokens operand) :
      SpellsAll tokens [operand]
  | cons {front back : List Token} {operand : Expression} {rest : List Expression}
      (first : Spells .operand front operand) (later : SpellsAll back rest) :
      SpellsAll (front ++ .and :: back) (operand :: rest)

/-- A row of tokens spells alternatives. -/
inductive SpellsAny : List Token → Alternatives → Prop
  | single {tokens : List Token} {operands : List Expression} (own : SpellsAll tokens operands) :
      SpellsAny tokens [operands]
  | cons {front back : List Token} {operands : List Expression} {rest : Alternatives}
      (first : SpellsAll front operands) (later : SpellsAny back rest) :
      SpellsAny (front ++ .or :: back) (operands :: rest)

/-- Operands with AND between them are spelled as one row of operands, the first ones in front. -/
theorem SpellsAll.append {front back : List Token} {first second : List Expression}
    (one : SpellsAll front first) (other : SpellsAll back second) :
    SpellsAll (front ++ .and :: back) (first ++ second) := by
  induction one with
  | single own => exact .cons own other
  | cons own later inductionHypothesis =>
    rw [List.append_assoc]
    exact .cons own inductionHypothesis

/-- Alternatives with OR between them are spelled as one row of alternatives, the first ones in
front. -/
theorem SpellsAny.append {front back : List Token} {first second : Alternatives}
    (one : SpellsAny front first) (other : SpellsAny back second) :
    SpellsAny (front ++ .or :: back) (first ++ second) := by
  induction one with
  | single own => exact .cons own other
  | cons own later inductionHypothesis =>
    rw [List.append_assoc]
    exact .cons own inductionHypothesis

/-- Tokens that spell alternatives spell at least one; no row of tokens stands for none. -/
theorem SpellsAny.ne_nil {tokens : List Token} {alternatives : Alternatives}
    (spells : SpellsAny tokens alternatives) : alternatives ≠ [] := by
  cases spells <;> exact List.cons_ne_nil _ _

/-- Alternatives with AND between them: it binds only those next to it, the last of the first
row and the first of the second, and all others stay alternatives. -/
theorem SpellsAny.beside {front back : List Token} {first second : Alternatives}
    (one : SpellsAny front first) (other : SpellsAny back second) :
    SpellsAny (front ++ .and :: back) (beside first second) := by
  induction one with
  | single own =>
    cases other with
    | single others => exact .single (own.append others)
    | cons others later =>
      have joined := SpellsAny.cons (own.append others) later
      rw [List.append_assoc] at joined
      exact joined
  | @cons front more operands rest own later inductionHypothesis =>
    obtain ⟨next, others, rfl⟩ := List.exists_cons_of_ne_nil later.ne_nil
    rw [List.append_assoc]
    exact .cons own inductionHypothesis

/-- Alternatives with a connective between them are spelled as they are combined, for AND and
for OR. -/
theorem SpellsAny.combine (connective : Connective) {front back : List Token}
    {first second : Alternatives} (one : SpellsAny front first) (other : SpellsAny back second) :
    SpellsAny (front ++ Token.ofConnective connective :: back)
      (combine connective first second) := by
  cases connective with
  | and => exact one.beside other
  | or => exact one.append other

/-- Operands behind those that wait for AND are a conjunction, which is true when all of them
are, the waiting ones included. -/
theorem SpellsAll.joined {tokens : List Token} {operands : List Expression}
    (spells : SpellsAll tokens operands) {earlier : Option Expression} {front : List Token}
    (pending : Pending .conjunction .and earlier front) :
    ∃ conjunction, Spells .conjunction (front ++ tokens) conjunction ∧
      ∀ assignment, conjunction.eval assignment =
        (evalFactors assignment earlier && operands.all (eval assignment)) := by
  induction spells generalizing earlier front with
  | single own => exact ⟨_, pending.and own, fun assignment => by simp⟩
  | @cons first back operand rest own later inductionHypothesis =>
    obtain ⟨conjunction, spelled, truth⟩ := inductionHypothesis (.joined (pending.and own))
    refine ⟨conjunction, by simpa using spelled, fun assignment => ?_⟩
    rw [truth, evalFactors, Option.map_some, Option.getD_some, eval_behind_and, List.all_cons,
      Bool.and_assoc]

/-- Alternatives behind those that wait for OR are a disjunction, which is true when one
of them holds. -/
theorem SpellsAny.joined {tokens : List Token} {alternatives : Alternatives}
    (spells : SpellsAny tokens alternatives) {earlier : Option Expression} {front : List Token}
    (pending : Pending .disjunction .or earlier front) :
    ∃ disjunction, Spells .disjunction (front ++ tokens) disjunction ∧
      ∀ assignment, disjunction.eval assignment =
        (evalAlternatives assignment earlier || alternatives.holds assignment) := by
  have conjoined {row : List Token} {operands : List Expression} (own : SpellsAll row operands) :
      ∃ conjunction, Spells .conjunction row conjunction ∧
        ∀ assignment, conjunction.eval assignment = operands.all (eval assignment) := by
    obtain ⟨conjunction, spelled, truth⟩ := own.joined .nothing
    exact ⟨conjunction, spelled, fun assignment => by simp [truth, evalFactors]⟩
  induction spells generalizing earlier front with
  | single own =>
    obtain ⟨conjunction, spelled, truth⟩ := conjoined own
    refine ⟨_, pending.or spelled, fun assignment => ?_⟩
    rw [eval_behind_or, truth]
    simp [holds]
  | @cons first back operands rest own later inductionHypothesis =>
    obtain ⟨conjunction, spelled, truth⟩ := conjoined own
    obtain ⟨disjunction, spelledAll, truthAll⟩ := inductionHypothesis (.joined (pending.or spelled))
    refine ⟨disjunction, by simpa using spelledAll, fun assignment => ?_⟩
    rw [truthAll, evalAlternatives, Option.map_some, Option.getD_some, eval_behind_or, truth,
      Bool.or_assoc]
    rfl

/-- An expression of a rank as the alternatives that it consists of. -/
def Divided : Rank → List Token → Expression → Prop
  | .operand, tokens, expression => Spells .operand tokens expression
  | .conjunction, tokens, expression => ∃ operands, SpellsAll tokens operands ∧
      ∀ assignment, expression.eval assignment = operands.all (eval assignment)
  | .disjunction, tokens, expression => ∃ alternatives, SpellsAny tokens alternatives ∧
      ∀ assignment, expression.eval assignment = alternatives.holds assignment

/-- Every expression consists of alternatives, each a row of operands, and has their truth. The
induction is on how the tokens spell it, with one case for each rule of the grammar. -/
theorem Spells.divided {rank : Rank} {tokens : List Token} {expression : Expression}
    (spells : Spells rank tokens expression) : Divided rank tokens expression := by
  induction spells with
  | atom clause => exact .atom clause
  | not inside inductionHypothesis => exact .not inside
  | enclosed inside inductionHypothesis => exact .enclosed inside
  | single own inductionHypothesis => exact ⟨_, .single own, fun assignment => by simp⟩
  | and first second firstHypothesis secondHypothesis =>
    obtain ⟨operands, spelled, truth⟩ := firstHypothesis
    exact ⟨_, spelled.append (.single second), fun assignment => by simp [eval, truth]⟩
  | alternative own inductionHypothesis =>
    obtain ⟨operands, spelled, truth⟩ := inductionHypothesis
    exact ⟨_, .single spelled, fun assignment => by simp [holds, truth]⟩
  | or first second firstHypothesis secondHypothesis =>
    obtain ⟨alternatives, spelledAny, truthAny⟩ := firstHypothesis
    obtain ⟨operands, spelled, truth⟩ := secondHypothesis
    exact ⟨_, spelledAny.append (.single spelled), fun assignment => by
      simp [eval, truthAny, truth, holds]⟩

end Expression

namespace Clause

/-- The expression that a clause is read as. -/
def expression? (clause : Clause) : Option Expression := clause.tokens.bind parse

/-- The truth of a clause that is read on its own. -/
def truth (assignment : Clause → Bool) (clause : Clause) : Option Bool :=
  clause.expression?.map (eval assignment)

/-- A clause is read as alternatives. -/
def Reads (clause : Clause) (alternatives : Alternatives) : Prop :=
  ∃ tokens, clause.tokens = some tokens ∧ SpellsAny tokens alternatives

namespace Reads

/-- The clause holds when one of its alternatives does. The reading is unique, so it is the
expression that the clause is read as. -/
theorem truth {clause : Clause} {alternatives : Alternatives} (reads : clause.Reads alternatives)
    (assignment : Clause → Bool) :
    clause.truth assignment = some (alternatives.holds assignment) := by
  obtain ⟨tokens, found, spells⟩ := reads
  obtain ⟨disjunction, spelled, same⟩ := spells.joined .nothing
  rw [List.nil_append] at spelled
  rw [Clause.truth, expression?, found, Option.bind_some,
    (parse_eq_some_iff tokens disjunction).mpr spelled, Option.map_some, same]
  rfl

/-- Every clause that is read as an expression is read as alternatives, possibly a single one. -/
theorem of_expression {clause : Clause} {expression : Expression}
    (read : clause.expression? = some expression) :
    ∃ alternatives, clause.Reads alternatives := by
  obtain ⟨tokens, found, parsed⟩ := Option.bind_eq_some_iff.mp read
  obtain ⟨alternatives, spells, _⟩ := ((parse_eq_some_iff tokens expression).mp parsed).divided
  exact ⟨alternatives, tokens, found, spells⟩

/-- Clauses with a connective between them are read as their alternatives are combined by it. No
parentheses are between, so AND binds across the border. -/
theorem combine (connective : Connective) {front back : Clause} {first second : Alternatives}
    (one : front.Reads first) (other : back.Reads second) :
    (front ++ ofText connective.separator ++ back).Reads (combine connective first second) := by
  obtain ⟨tokens, found, spells⟩ := one
  obtain ⟨later, laterFound, laterSpells⟩ := other
  exact ⟨_, tokens_connective connective found laterFound, spells.combine connective laterSpells⟩

/-- In parentheses a clause is a single operand, with the truth of its alternatives together,
and the opposite of it when negated. -/
theorem grouped (negated : Bool) {clause : Clause} {alternatives : Alternatives}
    (reads : clause.Reads alternatives) (live : clause.isEmpty = false) :
    ∃ operand, (clause.grouped negated).Reads [[operand]] ∧
      ∀ assignment, operand.eval assignment = (negated ^^ alternatives.holds assignment) := by
  obtain ⟨tokens, found, spells⟩ := reads
  obtain ⟨disjunction, spelled, same⟩ := spells.joined .nothing
  have written := tokens_enclosed negated found
  rw [← grouped_live negated clause live] at written
  have enclosed : Spells .operand (.opening :: (tokens ++ [.closing])) disjunction :=
    .enclosed spelled
  cases negated with
  | false =>
    refine ⟨disjunction, ⟨_, written, .single (.single enclosed)⟩, fun assignment => ?_⟩
    simp [same, evalAlternatives]
  | true =>
    refine ⟨.not disjunction, ⟨_, written, .single (.single (.not enclosed))⟩, fun assignment => ?_⟩
    simp [eval, same, evalAlternatives]

end Reads

/-- The readings of the clauses that say something. -/
inductive ReadsEach : List Clause → List Alternatives → Prop
  | nil : ReadsEach [] []
  | silent {clause : Clause} {rest : List Clause} {readings : List Alternatives}
      (nothing : clause.isEmpty = true) (later : ReadsEach rest readings) :
      ReadsEach (clause :: rest) readings
  | cons {clause : Clause} {alternatives : Alternatives} {rest : List Clause}
      {readings : List Alternatives} (live : clause.isEmpty = false)
      (own : clause.Reads alternatives) (later : ReadsEach rest readings) :
      ReadsEach (clause :: rest) (alternatives :: readings)

namespace ReadsEach

/-- There is something to read exactly when some clause says something. -/
theorem all_is_empty {clauses : List Clause} {readings : List Alternatives}
    (reads : ReadsEach clauses readings) : clauses.all isEmpty = readings.isEmpty := by
  induction reads with
  | nil => rfl
  | silent nothing later inductionHypothesis =>
    rw [List.all_cons, nothing, Bool.true_and, inductionHypothesis]
  | cons live own later inductionHypothesis => rw [List.all_cons, live]; rfl

/-- A join is read with the connective between the readings of those clauses that say something. -/
theorem join (connective : Connective) {clauses : List Clause} {readings : List Alternatives}
    (reads : ReadsEach clauses readings) (spoken : readings ≠ []) :
    (Clause.join connective.separator clauses).Reads
      (readings.foldr (Alternatives.combine connective) []) := by
  induction reads with
  | nil => exact absurd rfl spoken
  | @silent clause rest readings nothing later inductionHypothesis =>
    rw [join_cons_empty _ clause rest nothing]
    exact inductionHypothesis spoken
  | @cons clause alternatives rest readings live own later inductionHypothesis =>
    rw [join_cons _ clause rest live, later.all_is_empty, List.foldr_cons]
    by_cases last : readings = []
    · rw [last, List.foldr_nil, combine_nil]
      exact own
    · rw [if_neg (by simpa using last)]
      exact own.combine connective (inductionHypothesis last)

/-- All clauses that say something are true when all of their readings hold. Clauses that say
nothing make no difference to either side. -/
theorem truths {clauses : List Clause} {readings : List Alternatives}
    (reads : ReadsEach clauses readings) (assignment : Clause → Bool) :
    (clauses.all fun clause => clause.isEmpty || clause.truth assignment = some true) =
      readings.all (holds assignment) := by
  induction reads with
  | nil => rfl
  | silent nothing later inductionHypothesis => simp [nothing, inductionHypothesis]
  | cons live own later inductionHypothesis =>
    simp [live, own.truth assignment, inductionHypothesis]

end ReadsEach

/-- A clause that says nothing, or is read as alternatives of a kind. -/
def ReadsAs (kind : Alternatives → Prop) (clause : Clause) : Prop :=
  clause.isEmpty = true ∨ ∃ alternatives, clause.Reads alternatives ∧ kind alternatives

/-- A clause that can be read if it says anything. -/
abbrev Legible (clause : Clause) : Prop := clause.ReadsAs fun _ => True

/-- A clause that is a single alternative if it says anything. -/
abbrev Undivided (clause : Clause) : Prop :=
  clause.ReadsAs fun alternatives => alternatives.length = 1

namespace ReadsAs

variable {kind : Alternatives → Prop}

/-- Clauses of a kind have readings of that kind, one for each clause that says something. -/
theorem each (clauses : List Clause) (all : ∀ clause ∈ clauses, clause.ReadsAs kind) :
    ∃ readings, ReadsEach clauses readings ∧ ∀ alternatives ∈ readings, kind alternatives := by
  induction clauses with
  | nil => exact ⟨[], .nil, by simp⟩
  | cons clause rest inductionHypothesis =>
    obtain ⟨readings, later, kinds⟩ := inductionHypothesis fun other inside =>
      all other (List.mem_cons_of_mem clause inside)
    cases live : clause.isEmpty with
    | true => exact ⟨readings, .silent live later, kinds⟩
    | false =>
      obtain ⟨alternatives, own, ownKind⟩ :=
        (all clause List.mem_cons_self).resolve_left (by simp [live])
      exact ⟨alternatives :: readings, .cons live own later,
        List.forall_mem_cons.mpr ⟨ownKind, kinds⟩⟩

/-- A join is of a kind that connectives keep when its clauses are. Clauses that say nothing are
left out, and a join of none says nothing. -/
theorem join (connective : Connective)
    (kept : ∀ first second, kind first → kind second → kind (combine connective first second))
    (clauses : List Clause) (all : ∀ clause ∈ clauses, clause.ReadsAs kind) :
    (Clause.join connective.separator clauses).ReadsAs kind := by
  obtain ⟨readings, reads, kinds⟩ := each clauses all
  by_cases spoken : readings = []
  · left
    rw [join_is_empty, reads.all_is_empty, spoken]
    rfl
  · exact .inr ⟨_, reads.join connective spoken, foldr_combine connective kept kinds spoken⟩

/-- A group is a single operand, and so a single alternative, however many alternatives its
clause has. If the clause says nothing, so does the group. -/
theorem grouped (negated : Bool) {clause : Clause} (legible : clause.Legible) :
    (clause.grouped negated).Undivided := by
  cases live : clause.isEmpty with
  | true => exact .inl (by rw [grouped_is_empty, live])
  | false =>
    obtain ⟨alternatives, reads, _⟩ := legible.resolve_left (by simp [live])
    obtain ⟨operand, enclosed, _⟩ := reads.grouped negated live
    exact .inr ⟨_, enclosed, rfl⟩

/-- What is read as an expression can be read as alternatives of no special kind. -/
theorem of_expression {clause : Clause} {expression : Expression}
    (read : clause.expression? = some expression) : clause.Legible := by
  obtain ⟨alternatives, reads⟩ := Reads.of_expression read
  exact .inr ⟨alternatives, reads, trivial⟩

/-- A single alternative can be read, as any alternatives can. -/
theorem legible {clause : Clause} (reads : clause.ReadsAs kind) : clause.Legible :=
  reads.imp_right fun ⟨alternatives, own, _⟩ => ⟨alternatives, own, trivial⟩

end ReadsAs

end Clause

namespace Fragment

/-- Joined parts are of a kind that their connective keeps when each of them is, since the
clause of joined parts is the join of theirs. -/
theorem joined_reads_as {kind : Alternatives → Prop} (connective : Connective)
    (kept : ∀ first second, kind first → kind second → kind (combine connective first second))
    {parts : List Fragment} (each : ∀ part ∈ parts, part.clause.ReadsAs kind) :
    (joined connective parts).clause.ReadsAs kind := by
  rw [clause, clauses_eq_map]
  exact Clause.ReadsAs.join connective kept _ (List.forall_mem_map.mpr each)

/-- A fragment can be read when its leaves can. Joins and groups of what can be read can be
read, by induction over the fragment. -/
theorem legible (fragment : Fragment) (leaves : ∀ leaf ∈ fragment.leaves, leaf.Legible) :
    fragment.clause.Legible := by
  induction fragment using Fragment.induction with
  | leaf clause => exact leaves clause (List.mem_singleton_self clause)
  | joined connective parts inductionHypothesis =>
    refine joined_reads_as connective (fun _ _ _ _ => trivial) fun part inside => ?_
    exact inductionHypothesis part inside fun leaf own =>
      leaves leaf (mem_leaves_joined connective inside own)
  | grouped negated inner inductionHypothesis =>
    exact (Clause.ReadsAs.grouped negated (inductionHypothesis leaves)).legible

end Fragment

namespace Reduction

/-- A fragment that is a single alternative when its leaves can be read. -/
def KeptTogether (fragment : Fragment) : Prop :=
  (∀ leaf ∈ fragment.leaves, leaf.Legible) → fragment.clause.Undivided

/-- A conjunction is a single alternative: in parentheses, or because its parts are and AND
keeps them together. -/
theorem conjunction_kept_together (bare negated : Bool) (parts : List Fragment)
    (each : bare = true → ∀ part ∈ parts, KeptTogether part) :
    KeptTogether (conjunction bare negated parts) := by
  intro leaves
  unfold conjunction at leaves ⊢
  split
  · rename_i plain
    simp only [plain, if_true] at leaves
    refine Fragment.joined_reads_as .and (fun _ _ => length_beside) fun part inside => ?_
    exact each (Bool.and_eq_true_iff.mp plain).1 part inside fun leaf own =>
      leaves leaf (Fragment.mem_leaves_joined .and inside own)
  · rename_i enclosed
    rw [if_neg enclosed] at leaves
    exact Clause.ReadsAs.grouped negated (Fragment.legible _ leaves)

end Reduction

/-- Whatever node is reduced, at any depth, complete or up to an issue: when what is
written at the leaves can be read, the whole is a single alternative. -/
theorem reduce_kept_together (config : Config) (depth : Nat) (node : Node) (outcome : Outcome)
    (finished : reduce config depth node = some outcome) :
    Reduction.KeptTogether outcome.fragment := by
  refine reduce_induction (motive := fun _ => Reduction.KeptTogether) ?_ ?_ ?_ ?_ ?_ depth node
    outcome finished
  · intro sql values negated fits leaves
    exact Clause.ReadsAs.grouped negated (leaves _ (List.mem_singleton_self _))
  · intro sql values negated leaves
    exact .inl rfl
  · intro children bare negated parts each
    apply Reduction.conjunction_kept_together
    intro plain part inside
    cases each part inside with
    | silent => exact fun _ => .inl rfl
    | below placed holds => exact holds
  · intro children negated parts each leaves
    exact Clause.ReadsAs.grouped negated (Fragment.legible _ leaves)
  · intro fields negated parts each
    apply Reduction.conjunction_kept_together
    intro plain
    cases plain

end SqlCondition
