import SqlCondition.Proofs.Form
import SqlCondition.Proofs.Leaves
import SqlCondition.Proofs.Positions

/-!
# Numbering goes leaf by leaf

Numbering is one scan over the text of a clause and knows nothing of the leaves that
it is made of. It looks beyond a leaf in two places only: at the character before a
question mark that comes first, and at the character behind one that comes last. A
leaf that does not begin with a question mark, and does not end with one behind an
opening parenthesis, is numbered inside any text as it is by itself. Every leaf is of
that kind: a comparison begins with its column or the name of a function, and raw SQL
stands in parentheses.

So numbering a reduction numbers its leaves from the left, each after the parameters
of those before it.
-/

namespace SqlCondition

namespace Placeholder

/-- The text begins with a question mark. -/
def Leads (text : List Char) : Prop := text.head? = some '?'

/-- The text ends with a question mark behind an opening parenthesis. -/
def Trails (text : List Char) : Prop := ['(', '?'] <:+ text

instance (text : List Char) : Decidable (Leads text) := inferInstanceAs (Decidable (_ = _))

instance (text : List Char) : Decidable (Trails text) := inferInstanceAs (Decidable (_ <:+ _))

/-- How a text ends depends on its last piece: two characters decide it, and they lie in that
piece unless it is a single question mark or nothing at all. -/
theorem trails_of_append {front back : List Char} (trails : Trails (front ++ back)) :
    Trails back ∨ Leads back ∨ back = [] := by
  match back with
  | [] => exact Or.inr (Or.inr rfl)
  | [last] =>
    obtain ⟨before, same⟩ := trails
    have question : '?' = last := by simpa using congrArg List.getLast? same
    exact Or.inr (Or.inl (question ▸ rfl))
  | first :: second :: rest =>
    have long : ['(', '?'].length ≤ (first :: second :: rest).length := by simp
    exact Or.inl (List.suffix_of_suffix_length_le trails (List.suffix_append front _) long)

/-- The last character of a text, or else the one before it, as a scan meets it. One character
further on, that character takes the place of the one before the text. -/
theorem last_of_cons (previous : Option Char) (character : Char) (text : List Char) :
    (character :: text).getLast?.or previous = text.getLast?.or (some character) := by
  cases text with
  | nil => rfl
  | cons next rest => simp [List.getLast?_cons]

/-- Behind a text that leaves no quote open and has its own values for all of its
placeholders, numbering goes on as if it began there. The text must not end with a
placeholder that may still turn out to be in parentheses. -/
theorem number_from_append (quote previous : Option Char) (earlier : Nat)
    (values more : List Value) (text rest : List Char) (closed : quoteAfter quote text = none)
    (counted : countFrom quote text = values.length)
    (decided : ¬ Trails (previous.toList ++ text)) :
    let own := numberFrom quote previous earlier values text
    let later := numberFrom none (text.getLast?.or previous) (earlier + own.2.length) more rest
    numberFrom quote previous earlier (values ++ more) (text ++ rest) =
      (own.1 ++ later.1, own.2 ++ later.2) := by
  induction text generalizing quote previous earlier values with
  | nil =>
    have noQuote : quote = none := closed
    have noValues : values = [] := List.length_eq_zero_iff.mp counted.symm
    subst noQuote noValues
    rfl
  | cons character text inductionHypothesis =>
    have decidedLater : ¬ Trails ((some character).toList ++ text) := fun trails =>
      decided (trails.trans (List.suffix_append previous.toList _))
    have last := last_of_cons previous character text
    cases marked : isMark quote character with
    | false =>
      have closedLater : quoteAfter (step quote character) text = none := closed
      have countedLater : countFrom (step quote character) text = values.length := by
        simpa [countFrom, marked] using counted
      have later := inductionHypothesis (step quote character) (some character) earlier values
        closedLater countedLater decidedLater
      simp only [numberFrom, marked, List.cons_append, last, Bool.false_eq_true, if_false]
      rw [later]
    | true =>
      obtain ⟨_, stepped⟩ := step_mark marked
      cases values with
      | nil => simp [countFrom, marked] at counted
      | cons value others =>
        have closedLater : quoteAfter none text = none := stepped ▸ closed
        have countedLater : countFrom none text = others.length := by
          simp only [countFrom, marked, if_true, stepped, List.length_cons] at counted
          omega
        -- Behind the last character anything may follow, a parenthesis included.
        have alike : (previous = some '(' && (text ++ rest).head? = some ')') =
            (previous = some '(' && text.head? = some ')') := by
          cases text with
          | cons next more => rfl
          | nil =>
            have question : character = '?' := by
              cases quote <;> simp_all [isMark]
            have apart : previous ≠ some '(' := by
              rintro rfl
              exact decided (question ▸ List.suffix_rfl)
            simp [apart]
        have later := fun amount => inductionHypothesis none (some character) (earlier + amount)
          others closedLater countedLater decidedLater
        simp only [numberFrom, marked, List.cons_append, last, if_true, alike, later,
          List.length_append, List.append_assoc, Nat.add_assoc]

/-- What stands before a text makes no difference to one that does not begin with a
question mark. -/
theorem number_from_previous (quote previous : Option Char) (earlier : Nat) (values : List Value)
    (text : List Char) (free : ¬ Leads text) :
    numberFrom quote previous earlier values text = numberFrom quote none earlier values text := by
  cases text with
  | nil => rfl
  | cons character rest =>
    have unmarked : isMark quote character = false := by
      cases quote with
      | some _ => rfl
      | none =>
        have different : character ≠ '?' := fun same => free (same ▸ rfl)
        simp [isMark, different]
    simp only [numberFrom, unmarked, Bool.false_eq_true, if_false]

end Placeholder

open Placeholder

namespace Clause

/-- The clause closes its quotes and has a value for every placeholder. -/
structure Counted (clause : Clause) : Prop where
  closed : Closed clause.sql
  counted : Placeholder.count clause.sql = clause.values.length

/-- Such clauses one after another are such a clause. The first one leaves no quote open, so the
placeholders of the second one are those it has by itself. -/
theorem Counted.append {front back : Clause} (first : front.Counted) (second : back.Counted) :
    (front ++ back).Counted := by
  have sql : (front ++ back).sql.toList = front.sql.toList ++ back.sql.toList :=
    String.toList_append
  have behind : quoteAfter none front.sql.toList = none := first.closed
  have marks : countFrom none front.sql.toList = front.values.length := first.counted
  have moreMarks : countFrom none back.sql.toList = back.values.length := second.counted
  constructor
  · rw [Closed, sql, quote_after_append, behind]
    exact second.closed
  · rw [Placeholder.count, sql, count_append, behind, marks, moreMarks, append_values,
      List.length_append]

/-- The clause is numbered inside any text as it is by itself: besides, it shows no
placeholder at its ends that what stands around it could put in parentheses. -/
structure Separate (clause : Clause) : Prop extends clause.Counted where
  leads : ¬ Leads clause.sql.toList
  trails : ¬ Trails clause.sql.toList

namespace Separate

/-- Nothing is numbered by itself: it has neither placeholders nor ends. -/
theorem empty : Separate .empty := ⟨⟨rfl, rfl⟩, by decide, by decide⟩

/-- So are the connectives, which show letters and blanks only. -/
theorem separator (connective : Connective) : Separate (ofText connective.separator) := by
  cases connective <;> exact ⟨⟨by decide, by decide⟩, by decide, by decide⟩

/-- So are parentheses with what belongs to them. An opening one shows no placeholder, whatever
may follow it. -/
theorem opening (negated : Bool) : Separate (ofText (opening negated)) := by
  cases negated <;> exact ⟨⟨by decide, by decide⟩, by decide, by decide⟩

/-- A closing parenthesis shows no placeholder either, so it decides nothing about the clause
before it. -/
theorem closing : Separate (ofText ")") := ⟨⟨by decide, by decide⟩, by decide, by decide⟩

/-- A clause that says nothing has no values, because it has as many as placeholders. -/
theorem values_eq_nil {clause : Clause} (separate : clause.Separate)
    (silent : clause.isEmpty = true) : clause.values = [] := by
  have blank : clause.sql = "" := (is_empty_iff clause).mp silent
  have counted := separate.counted
  rw [blank] at counted
  exact List.length_eq_zero_iff.mp counted.symm

/-- Such clauses one after another are such a clause. The front of the whole is that of the
first clause that has text, and its end is that of the second one, unless this is too short to
decide. -/
theorem append {front back : Clause} (first : front.Separate) (second : back.Separate) :
    (front ++ back).Separate := by
  have sql : (front ++ back).sql.toList = front.sql.toList ++ back.sql.toList :=
    String.toList_append
  refine ⟨first.toCounted.append second.toCounted, ?_, ?_⟩
  · intro leads
    rw [Leads, sql, List.head?_append] at leads
    cases head : front.sql.toList.head? with
    | none =>
      rw [head, Option.none_or] at leads
      exact second.leads leads
    | some character =>
      rw [head, Option.some_or] at leads
      exact first.leads (head.trans leads)
  · intro trails
    rw [sql] at trails
    rcases trails_of_append trails with ending | leading | nothing
    · exact second.trails ending
    · exact second.leads leading
    · rw [nothing, List.append_nil] at trails
      exact first.trails trails

end Separate

/-- Two clauses are numbered one after the other. The scan reaches the second one with no quote
open, with its values and nothing else left, and with all parameters of the first one counted. -/
theorem numbered_append {front back : Clause} (first : front.Separate) (second : back.Separate)
    (earlier : Nat) :
    (front ++ back).numbered earlier =
      front.numbered earlier ++
        back.numbered (earlier + (front.numbered earlier).values.length) := by
  have whole := number_from_append none none earlier front.values back.values front.sql.toList
    back.sql.toList first.closed first.counted first.trails
  simp only [number_from_previous _ _ _ _ _ second.leads] at whole
  unfold numbered number
  rw [append_sql, append_values, String.toList_append, whole]
  exact congrArg (Clause.mk · _) String.ofList_append

/-- Text that binds nothing stays as it is, since only a value replaces a placeholder. -/
theorem numbered_of_text (text : String) (earlier : Nat) :
    (ofText text).numbered earlier = ofText text := by
  simp only [numbered, number, of_text_sql, of_text_values, number_from_nil, String.ofList_toList]
  rfl

/-- Numbering blanks no clause, and what it makes of a blank one is blank. -/
theorem numbered_is_empty (clause : Clause) (earlier : Nat) :
    (clause.numbered earlier).isEmpty = clause.isEmpty := by
  have blanks := number_from_eq_nil_iff none none earlier clause.values clause.sql.toList
  rw [Bool.eq_iff_iff, is_empty_iff, is_empty_iff, ← String.toList_inj, ← String.toList_inj]
  simp only [numbered, number, String.toList_ofList]
  exact blanks

/-- A clause that says nothing is numbered to one that says nothing, without parameters. -/
theorem Separate.numbered_values_eq_nil {clause : Clause} (separate : clause.Separate)
    (silent : clause.isEmpty = true) (earlier : Nat) : (clause.numbered earlier).values = [] := by
  have blank : clause = ofText "" := by
    rw [ofText, ← (is_empty_iff clause).mp silent, ← separate.values_eq_nil silent]
  rw [blank, numbered_of_text, of_text_values]

/-- A group is numbered as its clause is. The parentheses are pieces of their own, and they
enclose no placeholder that the clause did not enclose already. -/
theorem Separate.numbered_grouped {clause : Clause} (separate : clause.Separate) (negated : Bool)
    (earlier : Nat) :
    (clause.grouped negated).numbered earlier = (clause.numbered earlier).grouped negated := by
  cases live : clause.isEmpty with
  | true =>
    have silent := (clause.numbered_is_empty earlier).trans live
    rw [grouped_empty negated clause live, grouped_empty negated _ silent]
  | false =>
    have spoken := (clause.numbered_is_empty earlier).trans live
    rw [grouped_live negated clause live, grouped_live negated _ spoken,
      numbered_append ((Separate.opening negated).append separate) Separate.closing,
      numbered_append (Separate.opening negated) separate, numbered_of_text, numbered_of_text,
      of_text_values]
    rfl

/-- A clause was numbered leaf by leaf: what is written is the numbered clause, the
parameters come from the numbered leaves in order, and so many are counted after
it. -/
structure NumberedBy (earlier : Nat) (clause written : Clause) (leaves : List Clause)
    (next : Nat) : Prop where
  same : written = clause.numbered earlier
  counted : next = earlier + written.values.length
  bound : leaves.flatMap Clause.values = written.values

namespace NumberedBy

/-- What says nothing is numbered to nothing. No parameter is added by its leaves, and nothing
is counted after it. -/
theorem silent {earlier next : Nat} {clause written : Clause} {leaves : List Clause}
    (numbered : NumberedBy earlier clause written leaves next) (separate : clause.Separate)
    (blank : clause.isEmpty = true) :
    written.isEmpty = true ∧ leaves.flatMap Clause.values = [] ∧ next = earlier := by
  have noValues : written.values = [] := by
    rw [numbered.same]
    exact separate.numbered_values_eq_nil blank earlier
  refine ⟨?_, numbered.bound.trans noValues, ?_⟩
  · rw [numbered.same, numbered_is_empty, blank]
  · rw [numbered.counted, noValues, List.length_nil, Nat.add_zero]

/-- A group is numbered leaf by leaf when its clause is: it has the same leaves, with the same
parameters in them. -/
theorem grouped {earlier next : Nat} {clause written : Clause} {leaves : List Clause}
    (numbered : NumberedBy earlier clause written leaves next) (separate : clause.Separate)
    (negated : Bool) :
    NumberedBy earlier (clause.grouped negated) (written.grouped negated) leaves next := by
  refine ⟨?_, ?_, ?_⟩
  · rw [numbered.same, separate.numbered_grouped]
  · rw [grouped_values, numbered.counted]
  · rw [grouped_values, numbered.bound]

/-- So is a join when its first clause is and the join of the others is, behind the
parameters of the first. -/
theorem join_cons {earlier middle next : Nat} {clause written : Clause}
    {rest writtenRest leaves laterLeaves : List Clause} (connective : Connective)
    (first : NumberedBy earlier clause written leaves middle)
    (later : NumberedBy middle (join connective.separator rest)
      (join connective.separator writtenRest) laterLeaves next)
    (separate : clause.Separate) (separateRest : (join connective.separator rest).Separate) :
    NumberedBy earlier (join connective.separator (clause :: rest))
      (join connective.separator (written :: writtenRest)) (leaves ++ laterLeaves) next := by
  cases live : clause.isEmpty with
  | true =>
    obtain ⟨blank, noValues, rfl⟩ := first.silent separate live
    rw [join_cons_empty _ _ _ live, join_cons_empty _ _ _ blank]
    refine ⟨later.same, later.counted, ?_⟩
    rw [List.flatMap_append, noValues, List.nil_append, later.bound]
  | false =>
    have spoken : written.isEmpty = false := by rw [first.same, numbered_is_empty, live]
    have alike : writtenRest.all isEmpty = rest.all isEmpty := by
      rw [← join_is_empty connective.separator, ← join_is_empty connective.separator, later.same,
        numbered_is_empty]
    rw [Clause.join_cons _ _ _ live, Clause.join_cons _ _ _ spoken, alike]
    cases restSilent : rest.all isEmpty with
    | true =>
      have blankRest : (join connective.separator rest).isEmpty = true := by
        rw [join_is_empty, restSilent]
      obtain ⟨_, noValues, rfl⟩ := later.silent separateRest blankRest
      refine ⟨first.same, first.counted, ?_⟩
      rw [List.flatMap_append, noValues, List.append_nil]
      exact first.bound
    | false =>
      have separator := Separate.separator connective
      simp only [Bool.false_eq_true, if_false]
      refine ⟨?_, ?_, ?_⟩
      · rw [numbered_append (separate.append separator) separateRest,
          numbered_append separate separator, numbered_of_text, ← first.same, append_values,
          of_text_values, List.append_nil, ← first.counted, ← later.same]
      · rw [append_values, append_values, of_text_values, List.append_nil, List.length_append,
          ← Nat.add_assoc, ← first.counted, later.counted]
      · rw [List.flatMap_append, first.bound, later.bound, append_values, append_values,
          of_text_values, List.append_nil]

end NumberedBy

end Clause

namespace Fragment

mutual

/-- The fragment with its leaves numbered one by one, each after the parameters of
those before it, and how many parameters there are then. -/
def numberLeaves (earlier : Nat) : Fragment → Fragment × Nat
  | .leaf clause =>
      let numbered := clause.numbered earlier
      (.leaf numbered, earlier + numbered.values.length)
  | .joined connective parts =>
      let numbered := numberLeavesAll earlier parts
      (.joined connective numbered.1, numbered.2)
  | .grouped negated inner =>
      let numbered := inner.numberLeaves earlier
      (.grouped negated numbered.1, numbered.2)

/-- Several fragments with their leaves numbered, one fragment after the other. -/
def numberLeavesAll (earlier : Nat) : List Fragment → List Fragment × Nat
  | [] => ([], earlier)
  | part :: rest =>
      let first := part.numberLeaves earlier
      let later := numberLeavesAll first.2 rest
      (first.1 :: later.1, later.2)

end

/-- A fragment is numbered by itself when its leaves are, because connectives and parentheses
are and what is put together from such pieces is. -/
theorem separate (fragment : Fragment) (each : ∀ leaf ∈ fragment.leaves, leaf.Separate) :
    fragment.clause.Separate := by
  apply clause_induction Clause.Separate.empty _ _ fragment each
  · intro connective front back first second
    exact (first.append (.separator connective)).append second
  · intro negated clause inside
    exact ((Clause.Separate.opening negated).append inside).append .closing

/-- Parts that are numbered leaf by leaf are so when they are joined. By induction over the
parts, each is numbered after the parameters of those before it. -/
theorem numbered_by_joined (connective : Connective) (parts : List Fragment)
    (separate : ∀ part ∈ parts, part.clause.Separate)
    (each : ∀ part ∈ parts, ∀ earlier, Clause.NumberedBy earlier part.clause
      (part.numberLeaves earlier).1.clause (part.numberLeaves earlier).1.leaves
      (part.numberLeaves earlier).2) (earlier : Nat) :
    Clause.NumberedBy earlier (Clause.join connective.separator (parts.map clause))
      (Clause.join connective.separator ((numberLeavesAll earlier parts).1.map clause))
      (leavesAll (numberLeavesAll earlier parts).1) (numberLeavesAll earlier parts).2 := by
  induction parts generalizing earlier with
  | nil => exact ⟨(Clause.numbered_of_text "" earlier).symm, rfl, rfl⟩
  | cons part rest inductionHypothesis =>
    have first := each part List.mem_cons_self earlier
    have separateOthers : ∀ other ∈ rest, other.clause.Separate := fun other inside =>
      separate other (List.mem_cons_of_mem part inside)
    have later := inductionHypothesis separateOthers
      (fun other inside => each other (List.mem_cons_of_mem part inside))
      (part.numberLeaves earlier).2
    have separateRest : (Clause.join connective.separator (rest.map clause)).Separate := by
      apply Clause.join_induction _ Clause.Separate.empty
      · intro front back one another
        exact (one.append (.separator connective)).append another
      · intro written member
        obtain ⟨other, inside, rfl⟩ := List.mem_map.mp member
        exact separateOthers other inside
    exact first.join_cons connective later (separate part List.mem_cons_self) separateRest

/-- Numbering a fragment numbers its leaves one by one. By induction over the fragment: a leaf
is numbered as a clause, joins hand on the count from part to part, and groups change nothing. -/
theorem numbered_by_leaves (fragment : Fragment)
    (each : ∀ leaf ∈ fragment.leaves, leaf.Separate) (earlier : Nat) :
    Clause.NumberedBy earlier fragment.clause (fragment.numberLeaves earlier).1.clause
      (fragment.numberLeaves earlier).1.leaves (fragment.numberLeaves earlier).2 := by
  induction fragment using Fragment.induction generalizing earlier with
  | leaf clause => exact ⟨rfl, rfl, by simp [numberLeaves, leaves, Fragment.clause]⟩
  | joined connective parts inductionHypothesis =>
    have eachPart : ∀ part ∈ parts, ∀ leaf ∈ part.leaves, leaf.Separate :=
      fun part inside leaf own => each leaf (mem_leaves_joined connective inside own)
    simp only [numberLeaves, clause, clauses_eq_map, leaves]
    apply numbered_by_joined
    · intro part inside
      exact part.separate (eachPart part inside)
    · intro part inside
      exact inductionHypothesis part inside (eachPart part inside)
  | grouped negated inner inductionHypothesis =>
    exact (inductionHypothesis each earlier).grouped (inner.separate each) negated

end Fragment

/-! ## Leaves of reductions -/

namespace Form

/-- The fixed texts of the built-in operators begin and end with no placeholder that
what stands around it could put in parentheses. -/
theorem builtin_ends : ∀ form ∈ builtin, ¬ Leads form.front.toList ∧
    ¬ Trails form.back.toList ∧ ¬ Leads form.back.toList ∧ form.back.toList ≠ [] := by decide

end Form

namespace Clause

/-- A comparison is numbered by itself when its column is neutral and begins with an enclosing
mark. It begins with the column or with fixed text, and the fixed text behind the column decides
how it ends. -/
theorem Formed.separate {column : String} {clause : Clause} (formed : clause.Formed column)
    (quoted : Placeholder.Neutral column.toList 0) {mark : Char} (opens : isQuote mark = true)
    (head : column.toList.head? = some mark) : clause.Separate := by
  rcases formed with rfl | ⟨form, listed, written, bound⟩
  · exact Separate.empty
  · obtain ⟨frontFree, backDecided, backFree, backSpoken⟩ := Form.builtin_ends form listed
    have neutral := (Form.builtin_fits form listed).neutral quoted
    refine ⟨⟨?_, ?_⟩, ?_, ?_⟩
    · rw [Closed, written, neutral.closed]
    · rw [Placeholder.count, written, neutral.counted, bound]
    · intro leads
      rw [Leads, written, Form.to_list_write, List.append_assoc, List.head?_append,
        List.head?_append, head, Option.some_or] at leads
      cases first : form.front.toList.head? with
      | none =>
        rw [first, Option.none_or] at leads
        cases leads
        exact absurd opens (by decide)
      | some character =>
        rw [first, Option.some_or] at leads
        exact frontFree (first.trans leads)
    · intro trails
      rw [written, Form.to_list_write] at trails
      rcases trails_of_append trails with ending | leading | nothing
      · exact backDecided ending
      · exact backFree leading
      · exact backSpoken nothing

/-- A clause that closes its quotes and has a value for every placeholder is numbered
by itself once it is in parentheses. -/
theorem Counted.separate_grouped {clause : Clause} (counted : clause.Counted) (negated : Bool) :
    (clause.grouped negated).Separate := by
  cases live : clause.isEmpty with
  | true =>
    have blank : clause.sql = "" := (is_empty_iff clause).mp live
    rw [grouped_empty negated clause live]
    refine ⟨counted, ?_, ?_⟩ <;> rw [blank] <;> decide
  | false =>
    have opening := Separate.opening negated
    have text : (ofText (Clause.opening negated) ++ clause ++ ofText ")").sql.toList =
        (Clause.opening negated).toList ++ clause.sql.toList ++ ")".toList := by
      rw [append_sql, append_sql, of_text_sql, of_text_sql, String.toList_append,
        String.toList_append]
    rw [grouped_live negated clause live]
    refine ⟨(opening.toCounted.append counted).append Separate.closing.toCounted, ?_, ?_⟩
    · rw [text, List.append_assoc]
      cases negated <;> simp [Leads, Clause.opening]
    · intro trails
      rw [text] at trails
      rcases trails_of_append trails with ending | leading | nothing
      · exact absurd ending (by decide)
      · exact absurd leading (by decide)
      · exact absurd nothing (by decide)

end Clause

/-- Where the built-in operators are registered and raw SQL closes its quotes, every
leaf is numbered by itself. -/
theorem Origin.separate {config : Config} {node : Node} {leaf : Clause}
    (registry : config.operators = .builtin) (texts : ∀ sql, RawText config node sql → Closed sql)
    (origin : Origin config node leaf) : leaf.Separate := by
  cases origin with
  | silent => exact Clause.Separate.empty
  | @raw sql values negated reached fits =>
    have counted : Clause.Counted ⟨sql, values⟩ := ⟨texts sql ⟨values, negated, reached⟩, fits⟩
    exact counted.separate_grouped negated
  | comparison column value selected =>
    have builtin := Registry.select_builtin _ _ _ (registry ▸ selected)
    exact (Operator.build_formed _ builtin _ value _).separate (config.neutral_column column)
      config.dialect.is_quote_mark (config.head_column column)

/-- Numbering a reduction, complete or up to an issue, numbers its leaves from the
left, each after the parameters of those before it. The leaves are raw SQL of the
condition in its parentheses and comparisons by built-in operators, and those that say
something are the leaves of the condition, each once and in order. A numbered leaf has its
own values as parameters, with those lists spread whose placeholder is directly between
parentheses. The parameters are those of the numbered leaves in order, no placeholder is
left, and the fillings of the placeholders name all parameters once and in order.

Every leaf is numbered inside any text as it is by itself, because its ends show no
placeholder that a neighbour could put in parentheses. So the scan over the whole text
falls apart at the leaves, by induction over the fragment. -/
theorem reduction_numbered_leaf_by_leaf (config : Config) (registry : config.operators = .builtin)
    (depth : Nat) (node : Node) (texts : ∀ sql, RawText config node sql → Closed sql)
    (outcome : Outcome) (finished : reduce config depth node = some outcome) (earlier : Nat) :
    let clause := outcome.fragment.clause
    let numbered := clause.numbered earlier
    let leafwise := (outcome.fragment.sealed.numberLeaves earlier).1
    (∀ leaf ∈ outcome.fragment.sealed.leaves, Origin config node leaf) ∧
      Row.ofCondition config depth node =
        some ⟨outcome.fragment.sealed.leaves.filter fun leaf => !leaf.isEmpty,
          outcome.issue.isNone⟩ ∧
      (∀ leaf ∈ outcome.fragment.sealed.leaves, ∀ before,
        (leaf.numbered before).values =
          parametersBefore leaf.sql.toList leaf.values leaf.sql.toList.length) ∧
      numbered.sql = leafwise.clause.sql ∧
      numbered.values = leafwise.leaves.flatMap Clause.values ∧
      Placeholder.count numbered.sql = 0 ∧
      ∃ groups : List (List String), groups.length = clause.values.length ∧
        groups.flatten = names earlier numbered.values.length ∧
        numbered.sql.toList = refill none (groups.map spelled) clause.sql.toList := by
  intro clause numbered leafwise
  have sourced := reduce_sourced config depth node outcome finished
  have separate : ∀ leaf ∈ outcome.fragment.sealed.leaves, leaf.Separate := fun leaf own =>
    (sourced leaf own).separate registry texts
  have whole : clause.Counted := by
    have counted := (outcome.fragment.sealed.separate separate).toCounted
    rw [Fragment.clause_sealed] at counted
    exact counted
  have marks : countFrom none clause.sql.toList = clause.values.length := whole.counted
  have leaves := outcome.fragment.sealed.numbered_by_leaves separate earlier
  rw [Fragment.clause_sealed] at leaves
  refine ⟨sourced, ?_, ?_, ?_, ?_, ?_, ?_⟩
  · rw [reduce_lists config depth node outcome finished, Outcome.row, Fragment.liveLeaves,
      List.flatMap_singleton]
  · intro leaf _ before
    exact number_values leaf.sql leaf.values before
  · exact congrArg Clause.sql leaves.same.symm
  · exact (congrArg Clause.values leaves.same.symm).trans leaves.bound.symm
  · have left := count_number_from none none earlier clause.values clause.sql.toList
    rw [marks, Nat.sub_self] at left
    simpa only [Placeholder.count, numbered, Clause.numbered, number, String.toList_ofList]
      using left
  · obtain ⟨groups, amount, all, filled⟩ :=
      number_from_fills none none earlier clause.values clause.sql.toList
    rw [marks, Nat.min_self] at amount
    refine ⟨groups, amount, all, ?_⟩
    simpa only [numbered, Clause.numbered, number, String.toList_ofList] using filled

/-- Raw SQL that is a placeholder for a list, and a mapping with a list, a list without
members and a text. -/
def listsNode : Node :=
  .or [.node (.raw "?" [.list [.int 1, .int 2]] true),
    .fields (.ofList
      [("a__in", .list [.int 3, .int 4]), ("b__in", .list []), ("c", .text "?")])] false

/-- The placeholder is all of its raw SQL, since the configuration has no hook that could return
more. -/
theorem lists_texts (sql : String) (text : RawText Config.default listsNode sql) : sql = "?" := by
  obtain ⟨item, member, child, taken, text⟩ := (RawText.or_iff _ _ _ _).mp text
  simp only [List.mem_cons, List.not_mem_nil, or_false] at member
  rcases member with rfl | rfl <;> cases taken
  · exact (RawText.raw_iff _ _ _ _ _).mp text
  · obtain ⟨entry, member, hook, registered, _⟩ := (RawText.map_iff _ _ _ _).mp text
    cases registered

/-- Lists in raw SQL and in comparisons are numbered leaf by leaf, from the eighth parameter on.
A list without members leaves no number behind. -/
theorem lists_numbered_leaf_by_leaf :
    ∃ outcome, reduce Config.default 3 listsNode = some outcome ∧
      outcome.fragment.clause.sql = "(NOT (?) OR (\"a\" IN (?) AND \"b\" IN (?) AND \"c\" = ?))" ∧
      (outcome.fragment.sealed.numberLeaves 7).1.clause.sql =
        "(NOT ($8, $9) OR (\"a\" IN ($10, $11) AND \"b\" IN (NULL) AND \"c\" = $12))" ∧
      (outcome.fragment.clause.numbered 7).sql =
        (outcome.fragment.sealed.numberLeaves 7).1.clause.sql ∧
      Placeholder.count (outcome.fragment.clause.numbered 7).sql = 0 := by
  have closed : ∀ sql, RawText Config.default listsNode sql → Closed sql := by
    intro sql text
    rw [lists_texts sql text]
    decide
  obtain ⟨_, _, _, leafwise, _, unmarked, _⟩ :=
    reduction_numbered_leaf_by_leaf Config.default rfl 3 listsNode closed _ rfl 7
  exact ⟨_, rfl, rfl, rfl, leafwise, unmarked⟩

end SqlCondition
