import SqlCondition.Clause.Basic

/-!
# How clauses are assembled

Clauses can be put one after another. A group is its clause between two fixed
texts, and a join is its first clause, the separator and the join of the rest, as
long as both of them say something. With these equations a property of clauses
that survives putting them together holds of every fragment whose leaves have it.

A fragment is a tree, and the induction over it has one case for a leaf, one for
joined parts and one for a group. Raw SQL stands in its own parentheses, and
`sealed` makes a leaf of both. The leaves of a sealed fragment are the clauses
that are written without looking at anything around them.
-/

namespace SqlCondition

namespace Clause

/-- Text that binds nothing. -/
def ofText (text : String) : Clause := ⟨text, []⟩

/-- One clause right after another. -/
def append (front back : Clause) : Clause := ⟨front.sql ++ back.sql, front.values ++ back.values⟩

instance : Append Clause := ⟨append⟩

/-- The text of two clauses one after another is that of the first followed by that of the
second. -/
@[simp]
theorem append_sql (front back : Clause) : (front ++ back).sql = front.sql ++ back.sql := rfl

/-- The values of two clauses one after another are those of the first followed by those of the
second, as their placeholders are. -/
@[simp]
theorem append_values (front back : Clause) :
    (front ++ back).values = front.values ++ back.values := rfl

/-- Text taken as a clause is that text. -/
@[simp]
theorem of_text_sql (text : String) : (ofText text).sql = text := rfl

/-- Text taken as a clause binds no values. It stands for parentheses and connectives, which
have no placeholders. -/
@[simp]
theorem of_text_values (text : String) : (ofText text).values = [] := rfl

/-- What stands in front of a group. -/
def opening (negated : Bool) : String := if negated then "NOT (" else "("

/-- A clause says nothing exactly when its text has no characters. Its values are not looked at. -/
theorem is_empty_iff (clause : Clause) : clause.isEmpty = true ↔ clause.sql = "" :=
  String.isEmpty_iff

/-- Clauses one after another say nothing only when none of them does, since a text is empty
only with both of its pieces. -/
theorem append_is_empty (front back : Clause) :
    (front ++ back).isEmpty = (front.isEmpty && back.isEmpty) := by
  rw [Bool.eq_iff_iff, Bool.and_eq_true, is_empty_iff, is_empty_iff, is_empty_iff, append_sql]
  exact String.append_eq_empty_iff

/-- A group that says something is its clause between two fixed texts, the first of which
carries the negation. With this equation a group is a row of clauses. -/
theorem grouped_live (negated : Bool) (clause : Clause) (live : clause.isEmpty = false) :
    clause.grouped negated = ofText (opening negated) ++ clause ++ ofText ")" := by
  have values : ([] ++ clause.values) ++ [] = clause.values := by simp
  cases negated <;> simp only [grouped, live] <;> exact congrArg (Clause.mk _) values.symm

/-- A group says something exactly when its clause does: parentheses are never put around
nothing. -/
@[simp]
theorem grouped_is_empty (negated : Bool) (clause : Clause) :
    (clause.grouped negated).isEmpty = clause.isEmpty := by
  cases live : clause.isEmpty with
  | true => rw [grouped_empty negated clause live, live]
  | false => rw [grouped_live negated clause live, append_is_empty, append_is_empty, live]; simp

/-- A clause that says something comes first in a join. The separator follows when
the rest says something too. -/
theorem join_cons (separator : String) (clause : Clause) (rest : List Clause)
    (live : clause.isEmpty = false) :
    join separator (clause :: rest) =
      if rest.all isEmpty then clause
      else clause ++ ofText separator ++ join separator rest := by
  have first : (clause :: rest).filter (fun clause => !clause.isEmpty) =
      clause :: rest.filter fun clause => !clause.isEmpty := by simp [live]
  unfold join
  rw [first]
  cases others : rest.filter fun clause => !clause.isEmpty with
  | nil =>
    have silent : rest.all isEmpty = true := by simpa using others
    simp [silent, Text.join]
  | cons next later =>
    have member : next ∈ rest ∧ next.isEmpty = false := by
      have kept : next ∈ rest.filter fun clause => !clause.isEmpty := others ▸ List.mem_cons_self
      simpa using kept
    have spoken : rest.all isEmpty = false :=
      List.all_eq_false.mpr ⟨next, member.1, by simp [member.2]⟩
    simp only [spoken, Bool.false_eq_true, if_false]
    exact congrArg (Clause.mk _) (by simp)

/-- A join says nothing exactly when none of its clauses says anything, because a separator
stands only between two that do. -/
@[simp]
theorem join_is_empty (separator : String) (clauses : List Clause) :
    (join separator clauses).isEmpty = clauses.all isEmpty := by
  induction clauses with
  | nil => rfl
  | cons clause rest inductionHypothesis =>
    cases live : clause.isEmpty with
    | true => rw [join_cons_empty separator clause rest live, inductionHypothesis]; simp [live]
    | false =>
      rw [join_cons separator clause rest live]
      split <;> simp [live, append_is_empty]

/-- What holds of nothing, and of two clauses with the separator between them when
it holds of both, holds of a join when it holds of its clauses. -/
theorem join_induction {motive : Clause → Prop} (separator : String) (nothing : motive .empty)
    (both : ∀ front back, motive front → motive back → motive (front ++ ofText separator ++ back))
    (clauses : List Clause) (each : ∀ clause ∈ clauses, motive clause) :
    motive (join separator clauses) := by
  induction clauses with
  | nil => exact nothing
  | cons clause rest inductionHypothesis =>
    have later : motive (join separator rest) :=
      inductionHypothesis fun other inside => each other (List.mem_cons_of_mem clause inside)
    cases live : clause.isEmpty with
    | true => exact join_cons_empty separator clause rest live ▸ later
    | false =>
      have first : motive clause := each clause List.mem_cons_self
      rw [join_cons separator clause rest live]
      split
      · exact first
      · exact both clause _ first later

end Clause

namespace Fragment

/-- Induction over fragments, with one case for a leaf, one for joined parts, each of which has
the property, and one for a group. -/
theorem induction {motive : Fragment → Prop} (leaf : ∀ clause, motive (.leaf clause))
    (joined : ∀ connective parts, (∀ part ∈ parts, motive part) → motive (.joined connective parts))
    (grouped : ∀ negated inner, motive inner → motive (.grouped negated inner)) :
    ∀ fragment, motive fragment
  | .leaf clause => leaf clause
  | .joined connective parts =>
      joined connective parts fun part _ => induction leaf joined grouped part
  | .grouped negated inner => grouped negated inner (induction leaf joined grouped inner)

/-- A group whose parentheses belong to the leaf when there is nothing else in it. -/
def enclose (negated : Bool) : Fragment → Fragment
  | .leaf clause => .leaf (clause.grouped negated)
  | other => .grouped negated other

mutual

/-- The fragment whose leaves include the parentheses of their own. -/
def sealed : Fragment → Fragment
  | .leaf clause => .leaf clause
  | .joined connective parts => .joined connective (sealedAll parts)
  | .grouped negated inner => inner.sealed.enclose negated

/-- Several fragments sealed one by one. -/
def sealedAll : List Fragment → List Fragment
  | [] => []
  | part :: rest => part.sealed :: sealedAll rest

end

mutual

/-- The clauses at the leaves, from the left. -/
def leaves : Fragment → List Clause
  | .leaf clause => [clause]
  | .joined _ parts => leavesAll parts
  | .grouped _ inner => inner.leaves

/-- The clauses at the leaves of several fragments, from the left. -/
def leavesAll : List Fragment → List Clause
  | [] => []
  | part :: rest => part.leaves ++ leavesAll rest

end

/-- Several fragments are sealed one by one, so that facts about one of them carry over to a
row. -/
theorem sealed_all_eq_map (parts : List Fragment) : sealedAll parts = parts.map sealed := by
  induction parts with
  | nil => rfl
  | cons part rest inductionHypothesis => simp [sealedAll, inductionHypothesis]

/-- The leaves of several fragments are the leaves of each, one after another and in the order
of the fragments. -/
theorem leaves_all_eq_flat_map (parts : List Fragment) :
    leavesAll parts = parts.flatMap leaves := by
  induction parts with
  | nil => rfl
  | cons part rest inductionHypothesis => simp [leavesAll, inductionHypothesis]

/-- The leaves of a part are leaves of the whole. This hands a hypothesis about all leaves down
to the parts of a join. -/
theorem mem_leaves_joined (connective : Connective) {parts : List Fragment} {part : Fragment}
    {leaf : Clause} (inside : part ∈ parts) (own : leaf ∈ part.leaves) :
    leaf ∈ (joined connective parts).leaves := by
  rw [leaves, leaves_all_eq_flat_map]
  exact List.mem_flatMap.mpr ⟨part, inside, own⟩

/-- Whose parentheses they are, those of a leaf or those of a group around it, makes no
difference to the clause that is written. -/
theorem clause_enclose (negated : Bool) (fragment : Fragment) :
    (fragment.enclose negated).clause = fragment.clause.grouped negated := by
  cases fragment <;> rfl

/-- Sealing keeps the clause. Only the border between leaves and groups moves, and
`clause_enclose` is the one place where it does. -/
theorem clause_sealed (fragment : Fragment) : fragment.sealed.clause = fragment.clause := by
  induction fragment using Fragment.induction with
  | leaf clause => rfl
  | joined connective parts inductionHypothesis =>
    have same : parts.map (clause ∘ sealed) = parts.map clause :=
      List.map_congr_left inductionHypothesis
    simp only [sealed, clause, sealed_all_eq_map, clauses_eq_map, List.map_map, same]
  | grouped negated inner inductionHypothesis =>
    rw [sealed, clause_enclose, inductionHypothesis, clause]

/-- What holds of nothing, of two clauses with a connective between them when it
holds of both, and of a clause in parentheses when it holds of the clause, holds of
a fragment when it holds of its leaves. -/
theorem clause_induction {motive : Clause → Prop} (nothing : motive .empty)
    (both : ∀ (connective : Connective) (front back : Clause), motive front → motive back →
      motive (front ++ Clause.ofText connective.separator ++ back))
    (enclosed : ∀ (negated : Bool) (clause : Clause), motive clause →
      motive (Clause.ofText (Clause.opening negated) ++ clause ++ Clause.ofText ")"))
    (fragment : Fragment) (each : ∀ leaf ∈ fragment.leaves, motive leaf) :
    motive fragment.clause := by
  induction fragment using Fragment.induction with
  | leaf clause => exact each clause (List.mem_singleton_self clause)
  | joined connective parts inductionHypothesis =>
    rw [clause, clauses_eq_map]
    refine Clause.join_induction _ nothing (both connective) _ ?_
    intro written member
    obtain ⟨part, inside, rfl⟩ := List.mem_map.mp member
    exact inductionHypothesis part inside fun leaf own =>
      each leaf (mem_leaves_joined connective inside own)
  | grouped negated inner inductionHypothesis =>
    have own : motive inner.clause := inductionHypothesis each
    rw [clause]
    cases live : inner.clause.isEmpty with
    | true => exact (Clause.grouped_empty negated inner.clause live).symm ▸ own
    | false => exact (Clause.grouped_live negated inner.clause live).symm ▸ enclosed negated _ own

end Fragment

end SqlCondition
