import SqlCondition.Proofs.Formula
import SqlCondition.Proofs.Induction
import SqlCondition.Proofs.Reading

/-!
# The text of a condition means what the condition says

A fragment is written as a row of tokens, in which every leaf is one atom. Reading
that row back by the precedence of NOT, AND and OR gives one expression, and it has the
truth of the formula that the fragment stands for.

What makes this work is the shape of the fragments that a reduction comes to. A part
may stand beside AND when it is a leaf, a group, or a conjunction of such parts; OR
stands only between such parts and only inside a group. So a conjunction may lack its
parentheses wherever a part is expected, and a disjunction never does.
-/

namespace SqlCondition

namespace Token

/-- Rows of tokens with the word for a connective between those that have any. -/
def between (connective : Connective) : List (List Token) → List Token
  | [] => []
  | row :: rest =>
      let later := between connective rest
      if row.isEmpty then later
      else if later.isEmpty then row
      else row ++ ofConnective connective :: later

/-- A row of tokens in parentheses, behind NOT when negated. -/
def enclose (negated : Bool) (row : List Token) : List Token :=
  if row.isEmpty then []
  else (if negated then [.not] else []) ++ .opening :: (row ++ [.closing])

/-- Rows with a connective between them are empty only when all of them are, for the connective
stands only between rows that have tokens. -/
theorem between_is_empty (connective : Connective) (rows : List (List Token)) :
    (between connective rows).isEmpty = rows.all List.isEmpty := by
  induction rows with
  | nil => rfl
  | cons row rest inductionHypothesis =>
    simp only [between, List.all_cons, ← inductionHypothesis]
    cases empty : row.isEmpty with
    | true => rfl
    | false =>
      cases silent : (between connective rest).isEmpty with
      | true => exact empty
      | false => simp

/-- The atoms of rows with a connective between them are those of each, one after another. The
connective is no atom. -/
theorem atoms_between (connective : Connective) (rows : List (List Token)) :
    atoms (between connective rows) = rows.flatMap atoms := by
  induction rows with
  | nil => rfl
  | cons row rest inductionHypothesis =>
    rw [List.flatMap_cons, ← inductionHypothesis]
    simp only [between]
    cases empty : row.isEmpty with
    | true => simp [List.isEmpty_iff.mp empty, atoms]
    | false =>
      cases silent : (between connective rest).isEmpty with
      | true => simp [List.isEmpty_iff.mp silent, atoms]
      | false =>
        have word : atoms [ofConnective connective] = [] := by cases connective <;> rfl
        simp only [Bool.false_eq_true, if_false]
        rw [List.append_cons, atoms_append, atoms_append, word, List.append_nil]

/-- Parentheses and NOT are no atoms, so enclosing a row keeps the atoms. -/
theorem atoms_enclose (negated : Bool) (row : List Token) :
    atoms (enclose negated row) = atoms row := by
  unfold enclose
  split
  · rename_i empty
    rw [List.isEmpty_iff.mp empty]
  · have closed : atoms (row ++ [.closing]) = atoms row := by
      rw [atoms_append]
      exact List.append_nil _
    cases negated <;> exact closed

/-- Parentheses stand around something only. An empty row stays empty. -/
theorem enclose_is_empty (negated : Bool) (row : List Token) :
    (enclose negated row).isEmpty = row.isEmpty := by
  unfold enclose
  split
  · rename_i empty
    exact empty.symm
  · rename_i spoken
    rw [Bool.eq_false_iff.mpr spoken]
    cases negated <;> rfl

end Token

namespace Fragment

mutual

/-- The tokens of a fragment. -/
def tokens : Fragment → List Token
  | .leaf clause => if clause.isEmpty then [] else [.atom clause]
  | .joined connective parts => Token.between connective (tokenRows parts)
  | .grouped negated inner => Token.enclose negated inner.tokens

/-- The tokens of several fragments. -/
def tokenRows : List Fragment → List (List Token)
  | [] => []
  | part :: rest => part.tokens :: tokenRows rest

end

/-- Several fragments have the tokens of each, in the same order. -/
theorem token_rows_eq_map (parts : List Fragment) : tokenRows parts = parts.map tokens := by
  induction parts with
  | nil => rfl
  | cons part rest inductionHypothesis => simp [tokenRows, inductionHypothesis]

/-- A fragment has tokens when its clause says something, and they spell its text. -/
structure Written (fragment : Fragment) : Prop where
  live : fragment.tokens.isEmpty = fragment.clause.isEmpty
  spelled : fragment.clause.sql = Token.text fragment.tokens

/-- The tokens of joined parts spell the join of their clauses. Parts without text have no
tokens, so both leave out the same parts. -/
theorem join_spelled (connective : Connective) (parts : List Fragment)
    (written : ∀ part ∈ parts, part.Written) :
    (Clause.join connective.separator (parts.map clause)).sql =
      Token.text (Token.between connective (parts.map tokens)) := by
  induction parts with
  | nil => rfl
  | cons part rest inductionHypothesis =>
    have own : part.Written := written part List.mem_cons_self
    have others : ∀ other ∈ rest, other.Written := fun other inside =>
      written other (List.mem_cons_of_mem part inside)
    have later := inductionHypothesis others
    have silent : (rest.map clause).all Clause.isEmpty =
        (Token.between connective (rest.map tokens)).isEmpty := by
      rw [Token.between_is_empty, List.all_map, List.all_map, Bool.eq_iff_iff, List.all_eq_true,
        List.all_eq_true]
      exact forall₂_congr fun other inside => by simp [(others other inside).live]
    simp only [List.map_cons, Token.between]
    cases live : part.clause.isEmpty with
    | true =>
      have noTokens : part.tokens.isEmpty = true := own.live.trans live
      rw [Clause.join_cons_empty _ _ _ live, later]
      simp [noTokens]
    | false =>
      have someTokens : part.tokens.isEmpty = false := own.live.trans live
      rw [Clause.join_cons _ _ _ live, silent]
      simp only [someTokens, Bool.false_eq_true, if_false]
      split
      · exact own.spelled
      · rw [Clause.append_sql, Clause.append_sql, Clause.of_text_sql, later, own.spelled,
          Token.text_append, Token.text, Token.spelling_of_connective, String.append_assoc]

/-- The tokens of every fragment spell its clause, by induction over the fragment with one case
for a leaf, one for a join and one for a group. -/
theorem written (fragment : Fragment) : fragment.Written := by
  induction fragment using Fragment.induction with
  | leaf clause =>
    cases live : clause.isEmpty with
    | true => exact ⟨by simp [tokens, Fragment.clause, live],
        by simp [tokens, Fragment.clause, live, Token.text, (Clause.is_empty_iff clause).mp live]⟩
    | false => exact ⟨by simp [tokens, Fragment.clause, live],
        by simp [tokens, Fragment.clause, live, Token.text, Token.spelling]⟩
  | joined connective parts inductionHypothesis =>
    constructor
    · rw [tokens, clause, token_rows_eq_map, clauses_eq_map, Token.between_is_empty,
        Clause.join_is_empty, List.all_map, List.all_map, Bool.eq_iff_iff, List.all_eq_true,
        List.all_eq_true]
      exact forall₂_congr fun part inside => by simp [(inductionHypothesis part inside).live]
    · rw [tokens, clause, token_rows_eq_map, clauses_eq_map]
      exact join_spelled connective parts inductionHypothesis
  | grouped negated inner inductionHypothesis =>
    obtain ⟨live, spelled⟩ := inductionHypothesis
    constructor
    · rw [tokens, clause, Token.enclose_is_empty, Clause.grouped_is_empty, live]
    · rw [tokens, clause]
      unfold Clause.grouped Token.enclose
      rw [live]
      split
      · rename_i silent
        rw [spelled, List.isEmpty_iff.mp (live.trans silent)]
      · cases negated <;>
          simp [Token.text, Token.text_append, Token.spelling, spelled, ← String.append_assoc]

/-- The atoms among the tokens are the atoms of what the fragment says, in the same order.
Neither connectives nor parentheses add any. -/
theorem atoms_tokens (fragment : Fragment) :
    Token.atoms fragment.tokens = fragment.formula.leaves := by
  induction fragment using Fragment.induction with
  | leaf clause =>
    cases live : clause.isEmpty <;>
      simp [tokens, formula, Formula.ofClause, Formula.leaves, live, Token.atoms, Token.clause?]
  | joined connective parts inductionHypothesis =>
    have listed : Formula.leavesAll (parts.map formula) =
        parts.flatMap fun part => part.formula.leaves := by
      clear inductionHypothesis
      induction parts with
      | nil => rfl
      | cons part rest inductionHypothesis => simp [Formula.leavesAll, inductionHypothesis]
    have same : (parts.flatMap fun part => Token.atoms part.tokens) =
        parts.flatMap fun part => part.formula.leaves := by
      rw [List.flatMap_def, List.flatMap_def, List.map_congr_left inductionHypothesis]
    cases connective <;>
      rw [tokens, formula, Formula.leaves, token_rows_eq_map, formulas_eq_map, Token.atoms_between,
        List.flatMap_map, listed, same]
  | grouped negated inner inductionHypothesis =>
    rw [tokens, formula, Token.atoms_enclose, inductionHypothesis]
    cases negated <;> rfl

/-- A fragment has no tokens at all exactly when what it says has no atoms. No parenthesis is
ever left over. -/
theorem tokens_eq_nil_iff (fragment : Fragment) :
    fragment.tokens = [] ↔ fragment.formula.leaves = [] := by
  constructor
  · intro silent
    rw [← atoms_tokens, silent]
    rfl
  · intro noLeaves
    rw [← atoms_tokens] at noLeaves
    induction fragment using Fragment.induction with
    | leaf clause =>
      cases live : clause.isEmpty with
      | true => simp [tokens, live]
      | false => simp [tokens, live, Token.atoms, Token.clause?] at noLeaves
    | joined connective parts inductionHypothesis =>
      rw [tokens, token_rows_eq_map, Token.atoms_between, List.flatMap_map] at noLeaves
      rw [tokens, token_rows_eq_map, ← List.isEmpty_iff, Token.between_is_empty, List.all_map,
        List.all_eq_true]
      intro part inside
      have none : Token.atoms part.tokens = [] := List.flatMap_eq_nil_iff.mp noLeaves part inside
      exact List.isEmpty_iff.mpr (inductionHypothesis part inside none)
    | grouped negated inner inductionHypothesis =>
      rw [tokens, Token.atoms_enclose] at noLeaves
      rw [tokens, ← List.isEmpty_iff, Token.enclose_is_empty, List.isEmpty_iff]
      exact inductionHypothesis noLeaves

/-- A fragment that may stand beside AND. -/
inductive Factor : Fragment → Prop
  | leaf (clause : Clause) : Factor (.leaf clause)
  | conjunction {parts : List Fragment} (factors : ∀ part ∈ parts, Factor part) :
      Factor (.joined .and parts)
  | disjunction (negated : Bool) {parts : List Fragment} (factors : ∀ part ∈ parts, Factor part) :
      Factor (.grouped negated (.joined .or parts))
  | group (negated : Bool) {inner : Fragment} (factor : Factor inner) :
      Factor (.grouped negated inner)

end Fragment

namespace Formula

/-- All of several formulas hold when the first does and all others do. One that says nothing
leaves the truth to the rest. -/
theorem truth_all_cons (assignment : Clause → Bool) (part : Formula) (rest : List Formula) :
    (all (part :: rest)).truth assignment =
      Option.merge (· && ·) (part.truth assignment) ((all rest).truth assignment) := by
  simp only [truth, truths]
  cases part.truth assignment <;> cases truths assignment rest <;> simp [overLive, Option.merge]

/-- Any of several formulas holds when the first does or any other does. One that says nothing
leaves the truth to the rest. -/
theorem truth_any_cons (assignment : Clause → Bool) (part : Formula) (rest : List Formula) :
    (any (part :: rest)).truth assignment =
      Option.merge (· || ·) (part.truth assignment) ((any rest).truth assignment) := by
  simp only [truth, truths]
  cases part.truth assignment <;> cases truths assignment rest <;> simp [overLive, Option.merge]

/-- A formula with a sign has its own truth or the opposite, and says nothing when it has
nothing to say. -/
theorem truth_signed (assignment : Clause → Bool) (negated : Bool) (formula : Formula) :
    (signed negated formula).truth assignment =
      (formula.truth assignment).map fun holds => if negated then !holds else holds := by
  cases negated <;> cases said : formula.truth assignment <;> simp [signed, truth, said]

end Formula

open Expression Reading

/-- Tokens that are read as operands joined by AND, with the truth of a formula. -/
structure Conjoins (tokens : List Token) (formula : Formula) : Prop where
  silent : tokens = [] → ∀ assignment, formula.truth assignment = none
  spoken : tokens ≠ [] → ∀ alternatives factors outer, ∃ conjunction,
    (Reading.awaiting ⟨alternatives, factors, 0⟩ outer).read tokens =
        some (.complete alternatives conjunction outer) ∧
      ∀ assignment, ∃ holds, formula.truth assignment = some holds ∧
        conjunction.eval assignment = (evalFactors assignment factors && holds)

/-- Tokens that are read as alternatives joined by OR, with the truth of a formula. -/
structure Disjoins (tokens : List Token) (formula : Formula) : Prop where
  silent : tokens = [] → ∀ assignment, formula.truth assignment = none
  spoken : tokens ≠ [] → ∀ alternatives outer, ∃ earlier conjunction,
    (Reading.awaiting ⟨alternatives, none, 0⟩ outer).read tokens =
        some (.complete earlier conjunction outer) ∧
      ∀ assignment, ∃ holds, formula.truth assignment = some holds ∧
        (behind .or earlier conjunction).eval assignment =
          (evalAlternatives assignment alternatives || holds)

namespace Conjoins

/-- For being read as operands only the truth of the formula matters, not how it is made up. -/
theorem congr {tokens : List Token} {first second : Formula} (conjoins : Conjoins tokens first)
    (same : ∀ assignment, second.truth assignment = first.truth assignment) :
    Conjoins tokens second := by
  constructor
  · simpa only [same] using conjoins.silent
  · simpa only [same] using conjoins.spoken

/-- Two rows of operands with AND between them are read as one row. What is waiting goes through
the first row and then through the second. -/
theorem both {front back : List Token} {first second : Formula} (one : Conjoins front first)
    (other : Conjoins back second) (frontSpoken : front ≠ []) (backSpoken : back ≠ [])
    (alternatives factors : Option Expression) (outer : List Level) :
    ∃ conjunction,
      (Reading.awaiting ⟨alternatives, factors, 0⟩ outer).read (front ++ .and :: back) =
          some (.complete alternatives conjunction outer) ∧
        ∀ assignment, ∃ holds,
          Option.merge (· && ·) (first.truth assignment) (second.truth assignment) = some holds ∧
            conjunction.eval assignment = (evalFactors assignment factors && holds) := by
  obtain ⟨earlier, frontRead, frontTruth⟩ := one.spoken frontSpoken alternatives factors outer
  obtain ⟨conjunction, backRead, backTruth⟩ :=
    other.spoken backSpoken alternatives (some earlier) outer
  refine ⟨conjunction, ?_, ?_⟩
  · rw [read_append, frontRead]
    exact backRead
  · intro assignment
    obtain ⟨left, leftSaid, leftTruth⟩ := frontTruth assignment
    obtain ⟨right, rightSaid, rightTruth⟩ := backTruth assignment
    refine ⟨left && right, by rw [leftSaid, rightSaid]; rfl, ?_⟩
    rw [rightTruth]
    simp only [evalFactors, Option.map_some, Option.getD_some, leftTruth, Bool.and_assoc]

/-- The parts of a conjunction are read as operands joined by AND, the silent ones left out. The
induction is along the parts, with cases for a silent first part and a silent rest. -/
theorem all (parts : List Fragment)
    (each : ∀ part ∈ parts, Conjoins part.tokens part.formula) :
    Conjoins (Token.between .and (parts.map Fragment.tokens))
      (.all (parts.map Fragment.formula)) := by
  induction parts with
  | nil => exact ⟨fun _ _ => rfl, fun spoken => absurd rfl spoken⟩
  | cons part rest inductionHypothesis =>
    have own : Conjoins part.tokens part.formula := each part List.mem_cons_self
    have later := inductionHypothesis fun other inside =>
      each other (List.mem_cons_of_mem part inside)
    simp only [List.map_cons, Token.between, List.isEmpty_iff]
    by_cases partSilent : part.tokens = []
    · rw [if_pos partSilent]
      apply later.congr
      intro assignment
      rw [Formula.truth_all_cons, own.silent partSilent, Option.merge_none_left]
    · rw [if_neg partSilent]
      by_cases restSilent : Token.between .and (rest.map Fragment.tokens) = []
      · rw [if_pos restSilent]
        apply own.congr
        intro assignment
        rw [Formula.truth_all_cons, later.silent restSilent, Option.merge_none_right]
      · rw [if_neg restSilent]
        refine ⟨fun silent => absurd silent (by simp), ?_⟩
        intro _ alternatives factors outer
        simpa only [Formula.truth_all_cons, Token.ofConnective] using
          own.both later partSilent restSilent alternatives factors outer

/-- Operands joined by AND are one alternative, in front of which OR may stand. -/
theorem disjoins {tokens : List Token} {formula : Formula} (conjoins : Conjoins tokens formula) :
    Disjoins tokens formula := by
  refine ⟨conjoins.silent, ?_⟩
  intro spoken alternatives outer
  obtain ⟨conjunction, reads, truth⟩ := conjoins.spoken spoken alternatives none outer
  refine ⟨alternatives, conjunction, reads, ?_⟩
  intro assignment
  obtain ⟨holds, said, same⟩ := truth assignment
  exact ⟨holds, said, by simp [same, evalFactors]⟩

end Conjoins

namespace Disjoins

/-- For being read as alternatives only the truth of the formula matters, not how it is made up. -/
theorem congr {tokens : List Token} {first second : Formula} (disjoins : Disjoins tokens first)
    (same : ∀ assignment, second.truth assignment = first.truth assignment) :
    Disjoins tokens second := by
  constructor
  · simpa only [same] using disjoins.silent
  · simpa only [same] using disjoins.spoken

/-- An alternative and further ones, with OR between them, are read as alternatives. OR ends the
conjunction that waits and begins a new one. -/
theorem both {front back : List Token} {first second : Formula} (one : Conjoins front first)
    (other : Disjoins back second) (frontSpoken : front ≠ []) (backSpoken : back ≠ [])
    (alternatives : Option Expression) (outer : List Level) :
    ∃ earlier conjunction,
      (Reading.awaiting ⟨alternatives, none, 0⟩ outer).read (front ++ .or :: back) =
          some (.complete earlier conjunction outer) ∧
        ∀ assignment, ∃ holds,
          Option.merge (· || ·) (first.truth assignment) (second.truth assignment) = some holds ∧
            (behind .or earlier conjunction).eval assignment =
              (evalAlternatives assignment alternatives || holds) := by
  obtain ⟨alternative, frontRead, frontTruth⟩ := one.spoken frontSpoken alternatives none outer
  obtain ⟨earlier, conjunction, backRead, backTruth⟩ :=
    other.spoken backSpoken (some (behind .or alternatives alternative)) outer
  refine ⟨earlier, conjunction, ?_, ?_⟩
  · rw [read_append, frontRead]
    exact backRead
  · intro assignment
    obtain ⟨left, leftSaid, leftTruth⟩ := frontTruth assignment
    obtain ⟨right, rightSaid, rightTruth⟩ := backTruth assignment
    have alternativeTruth : alternative.eval assignment = left := by
      simpa [evalFactors] using leftTruth
    refine ⟨left || right, by rw [leftSaid, rightSaid]; rfl, ?_⟩
    rw [rightTruth]
    simp only [evalAlternatives, Option.map_some, Option.getD_some]
    rw [eval_behind_or, alternativeTruth, Bool.or_assoc]
    rfl

/-- The parts of a disjunction are read as alternatives joined by OR, the silent ones left out.
Each part binds more tightly than OR, so none falls apart. -/
theorem any (parts : List Fragment)
    (each : ∀ part ∈ parts, Conjoins part.tokens part.formula) :
    Disjoins (Token.between .or (parts.map Fragment.tokens))
      (.any (parts.map Fragment.formula)) := by
  induction parts with
  | nil => exact ⟨fun _ _ => rfl, fun spoken => absurd rfl spoken⟩
  | cons part rest inductionHypothesis =>
    have own : Conjoins part.tokens part.formula := each part List.mem_cons_self
    have later := inductionHypothesis fun other inside =>
      each other (List.mem_cons_of_mem part inside)
    simp only [List.map_cons, Token.between, List.isEmpty_iff]
    by_cases partSilent : part.tokens = []
    · rw [if_pos partSilent]
      apply later.congr
      intro assignment
      rw [Formula.truth_any_cons, own.silent partSilent, Option.merge_none_left]
    · rw [if_neg partSilent]
      by_cases restSilent : Token.between .or (rest.map Fragment.tokens) = []
      · rw [if_pos restSilent]
        apply own.disjoins.congr
        intro assignment
        rw [Formula.truth_any_cons, later.silent restSilent, Option.merge_none_right]
      · rw [if_neg restSilent]
        refine ⟨fun silent => absurd silent (by simp), ?_⟩
        intro _ alternatives outer
        simpa only [Formula.truth_any_cons, Token.ofConnective] using
          Disjoins.both own later partSilent restSilent alternatives outer

/-- Alternatives in parentheses are an operand, behind NOT when negated. The parentheses open a
level of their own, on which nothing of the outer one is bound. -/
theorem enclosed (negated : Bool) {tokens : List Token} {formula : Formula}
    (disjoins : Disjoins tokens formula) :
    Conjoins (Token.enclose negated tokens) (.signed negated formula) := by
  by_cases silent : tokens = []
  · have truth (assignment : Clause → Bool) :
        (Formula.signed negated formula).truth assignment = none := by
      rw [Formula.truth_signed, disjoins.silent silent assignment]
      rfl
    exact ⟨fun _ => truth, fun spoken => absurd (by simp [silent, Token.enclose]) spoken⟩
  · have written : Token.enclose negated tokens =
        (if negated then [.not] else []) ++ .opening :: (tokens ++ [.closing]) := by
      simp [Token.enclose, silent]
    rw [written]
    refine ⟨fun impossible => absurd impossible (by simp), ?_⟩
    intro _ alternatives factors outer
    have entered : (Reading.awaiting ⟨alternatives, factors, 0⟩ outer).read
        ((if negated then [.not] else []) ++ .opening :: (tokens ++ [.closing])) =
          (start (⟨alternatives, factors, if negated then 1 else 0⟩ :: outer)).read
            (tokens ++ [.closing]) := by
      cases negated <;> rfl
    obtain ⟨earlier, conjunction, reads, truth⟩ :=
      disjoins.spoken silent none (⟨alternatives, factors, if negated then 1 else 0⟩ :: outer)
    refine ⟨behind .and factors (Reading.negated (if negated then 1 else 0)
      (behind .or earlier conjunction)), ?_, ?_⟩
    · rw [entered, read_append, start, reads]
      rfl
    · intro assignment
      obtain ⟨holds, said, same⟩ := truth assignment
      have inner : (behind .or earlier conjunction).eval assignment = holds := by
        simpa [evalAlternatives] using same
      refine ⟨if negated then !holds else holds, by rw [Formula.truth_signed, said]; rfl, ?_⟩
      rw [eval_behind_and]
      cases negated <;> simp [Reading.negated, eval, inner]

/-- Alternatives are read as one expression with the truth of the formula, when they are all
that there is to read. -/
theorem parsed {tokens : List Token} {formula : Formula} (disjoins : Disjoins tokens formula)
    (spoken : tokens ≠ []) :
    ∃ expression, parse tokens = some expression ∧
      ∀ assignment, formula.truth assignment = some (expression.eval assignment) := by
  obtain ⟨earlier, conjunction, reads, truth⟩ := disjoins.spoken spoken none []
  refine ⟨behind .or earlier conjunction, ?_, ?_⟩
  · rw [parse, start, reads]
    rfl
  · intro assignment
    obtain ⟨holds, said, same⟩ := truth assignment
    rw [said, same]
    rfl

end Disjoins

/-- What may stand beside AND is read as operands joined by AND. This is where precedence is
used: a bare conjunction lacks parentheses, and a disjunction never does. -/
theorem Fragment.Factor.conjoins {fragment : Fragment} (factor : fragment.Factor) :
    Conjoins fragment.tokens fragment.formula := by
  induction factor with
  | leaf clause =>
    cases live : clause.isEmpty with
    | true =>
      have formula : (Fragment.leaf clause).formula = .omitted := by
        simp [Fragment.formula, Formula.ofClause, live]
      have tokens : (Fragment.leaf clause).tokens = [] := by simp [Fragment.tokens, live]
      rw [formula, tokens]
      exact ⟨fun _ _ => rfl, fun spoken => absurd rfl spoken⟩
    | false =>
      have formula : (Fragment.leaf clause).formula = .atom clause := by
        simp [Fragment.formula, Formula.ofClause, live]
      have tokens : (Fragment.leaf clause).tokens = [.atom clause] := by
        simp [Fragment.tokens, live]
      rw [formula, tokens]
      refine ⟨fun silent => absurd silent (by simp), ?_⟩
      intro _ alternatives factors outer
      refine ⟨behind .and factors (.atom clause), rfl, ?_⟩
      intro assignment
      exact ⟨assignment clause, rfl, eval_behind_and assignment factors (.atom clause)⟩
  | @conjunction parts factors inductionHypothesis =>
    rw [Fragment.tokens, Fragment.formula, Fragment.token_rows_eq_map, Fragment.formulas_eq_map]
    exact Conjoins.all parts inductionHypothesis
  | @disjunction negated parts factors inductionHypothesis =>
    rw [Fragment.tokens, Fragment.formula, Fragment.tokens, Fragment.formula,
      Fragment.token_rows_eq_map, Fragment.formulas_eq_map]
    exact (Disjoins.any parts inductionHypothesis).enclosed negated
  | @group negated inner factor inductionHypothesis =>
    rw [Fragment.tokens, Fragment.formula]
    exact inductionHypothesis.disjoins.enclosed negated

/-- A part of a reduction may stand beside AND when the reductions below may, for a comparison
is an atom and a silent part is nothing. -/
theorem Reduction.Part.factor {config : Config} {node : Node} {fragment : Fragment}
    (part : Part config (fun _ fragment => fragment.Factor) node fragment) : fragment.Factor := by
  cases part with
  | silent => exact .leaf .empty
  | below placed holds => exact holds
  | comparison member unhooked selected => exact .leaf _

/-- A conjunction may stand beside AND, in parentheses or without. It may lack them because its
place is beside AND. -/
theorem Reduction.conjunction_factor (bare negated : Bool) (parts : List Fragment)
    (factors : ∀ part ∈ parts, part.Factor) : (conjunction bare negated parts).Factor := by
  unfold conjunction
  split
  · exact .conjunction factors
  · exact .group negated (.conjunction factors)

/-- A reduction, complete or up to an issue, comes to a fragment that may stand beside AND. Raw
SQL and disjunctions are always enclosed. -/
theorem reduce_factor (config : Config) (depth : Nat) (node : Node) (outcome : Outcome)
    (finished : reduce config depth node = some outcome) : outcome.fragment.Factor := by
  refine reduce_induction (motive := fun _ fragment => fragment.Factor) ?_ ?_ ?_ ?_ ?_ depth node
    outcome finished
  · intro sql values negated fits
    exact .group negated (.leaf _)
  · intro sql values negated
    exact .leaf .empty
  · intro children bare negated parts each
    apply Reduction.conjunction_factor
    intro part inside
    exact (each part inside).factor
  · intro children negated parts each
    exact .disjunction negated fun part inside => (each part inside).factor
  · intro fields negated parts each
    apply Reduction.conjunction_factor
    intro part inside
    exact (each part inside).factor

/-- The text of a lenient reduction means what the condition says. Its tokens are the text,
their atoms are those of the condition, and there are none at all when the condition has none;
otherwise the tokens spell one expression and no other, and it is true exactly when the
condition is, whatever the truth of the atoms.

Fragment and formula are followed layer by layer. What is joined with OR stands in
parentheses, and what is joined with AND binds tighter, so every part keeps together where it
stands. A row of tokens is never read as two expressions. -/
theorem reduced_text_means_condition (config : Config) (lenient : config.strict = false)
    (depth : Nat) (node : Node) (outcome : Outcome)
    (finished : reduce config depth node = some outcome) :
    ∃ formula, Formula.ofCondition config depth node = some formula ∧
      outcome.fragment.clause.sql = Token.text outcome.fragment.tokens ∧
      Token.atoms outcome.fragment.tokens = formula.leaves ∧
      (outcome.fragment.tokens = [] ↔ formula.leaves = []) ∧
      (formula.leaves ≠ [] → ∃ expression,
        (∀ other, Spells .disjunction outcome.fragment.tokens other ↔ other = expression) ∧
        ∀ assignment, formula.truth assignment = some (expression.eval assignment)) := by
  obtain ⟨formula, said, _, same⟩ := reduce_says config lenient depth node outcome finished
  have conjoins : Conjoins outcome.fragment.tokens formula :=
    same ▸ (reduce_factor config depth node outcome finished).conjoins
  have live : outcome.fragment.tokens = [] ↔ formula.leaves = [] :=
    same ▸ outcome.fragment.tokens_eq_nil_iff
  refine ⟨formula, said, outcome.fragment.written.spelled, same ▸ outcome.fragment.atoms_tokens,
    live, ?_⟩
  intro spoken
  obtain ⟨expression, parsed, truth⟩ := conjoins.disjoins.parsed (mt live.mp spoken)
  refine ⟨expression, ?_, truth⟩
  intro other
  rw [← parse_eq_some_iff, parsed, Option.some_inj, eq_comm]

/-- A key that stands for a bare conjunction. -/
def adultConfig : Config :=
  Config.default.withHook "adult" fun _ operand _ =>
    some (.node (.and [.fields (.ofList [("age__gte", operand)]), .raw "NOT dead" []] true false))

/-- A negated disjunction of a bare conjunction, a mapping with a hook, an unknown
operator and an empty list. -/
def adultNode : Node :=
  .or [.node
      (.and [.fields (.ofList [("a", .int 1)]), .fields (.ofList [("b", .int 2)])] true false),
    .fields (.ofList [("adult", .int 18), ("c__nope", .int 3)]), .list []] true

/-- A negated disjunction with a bare conjunction, a hook that returns another one, an unknown
operator and an empty list. Its text is read as one expression with the truth of the condition. -/
theorem adult_text_means_condition :
    ∃ outcome formula, reduce adultConfig 5 adultNode = some outcome ∧
      outcome.fragment.clause.sql =
        "NOT ((\"a\" = ?) AND (\"b\" = ?) OR ((\"age\" >= ?) AND ((NOT dead))))" ∧
      Formula.ofCondition adultConfig 5 adultNode = some formula ∧
      ∃ expression,
        (∀ other, Spells .disjunction outcome.fragment.tokens other ↔ other = expression) ∧
        ∀ assignment, formula.truth assignment = some (expression.eval assignment) := by
  obtain ⟨formula, said, _, atoms, _, read⟩ :=
    reduced_text_means_condition adultConfig rfl 5 adultNode _ rfl
  refine ⟨_, formula, rfl, rfl, said, read ?_⟩
  rw [← atoms]
  decide

end SqlCondition
