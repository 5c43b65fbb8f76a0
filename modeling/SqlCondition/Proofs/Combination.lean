import SqlCondition.Proofs.Emission
import SqlCondition.Proofs.Pruning

/-!
# Putting accepted conditions together

Raw SQL is accepted when it has as many placeholders as values, and for that it is scanned
by itself. When two accepted conditions are put together, in a list, in a node or in a plan,
no scan is made again: the result is accepted, and its values are those of the first
followed by those of the second.

In the combined text, however, the second is scanned behind the first. Its placeholders are
the ones that are seen from the quote which the first leaves open, and only when none is
open do the counts add up. So the check of each part says something about the whole for
texts that close their quotes, and nothing for others: a comment with an apostrophe in it
hides the placeholders of everything behind it.
-/

namespace SqlCondition

namespace Placeholder

/-- The open quote, if there is one, is a character that opens a span. -/
def Opened (quote : Option Char) : Prop := ∀ character ∈ quote, isQuote character = true

/-- No open quote is an open quote of any kind. -/
theorem Opened.none : Opened none := by simp [Opened]

/-- One character opens a span only if it is a quote, and leaves an open one as it is or closes
it. So what is open is a quote again. -/
theorem Opened.step {quote : Option Char} (opened : Opened quote) (character : Char) :
    Opened (step quote character) := by
  cases quote with
  | none =>
    simp only [Placeholder.step]
    split
    · rename_i opens
      intro same equal
      cases equal
      exact opens
    · exact .none
  | some mark =>
    simp only [Placeholder.step]
    split
    · exact .none
    · exact opened

/-- Behind any text what is open is a quote again, one character at a time. -/
theorem Opened.after {quote : Option Char} (opened : Opened quote) (text : List Char) :
    Opened (quoteAfter quote text) := by
  induction text generalizing quote with
  | nil => exact opened
  | cons character rest inductionHypothesis => exact inductionHypothesis (opened.step character)

/-- Plain text is passed over inside a quoted span as well as outside. It has no quote that
could close the span and no question mark that could count. -/
theorem Plain.inside {text : List Char} (plain : Plain text) {quote : Option Char}
    (opened : Opened quote) : quoteAfter quote text = quote ∧ countFrom quote text = 0 := by
  cases quote with
  | none => exact plain.passed
  | some mark =>
    have opens : isQuote mark = true := opened mark rfl
    induction text with
    | nil => exact ⟨rfl, rfl⟩
    | cons character rest inductionHypothesis =>
      have unquoted : isQuote character = false := (plain character List.mem_cons_self).1
      have different : character ≠ mark := by
        rintro rfl
        rw [opens] at unquoted
        cases unquoted
      have stepped : step (some mark) character = some mark := if_neg different
      obtain ⟨kept, counted⟩ := inductionHypothesis fun other later =>
        plain other (List.mem_cons_of_mem _ later)
      constructor
      · rw [quoteAfter, List.foldl_cons, stepped]
        exact kept
      · rw [countFrom, stepped, counted]
        rfl

/-- The placeholders that are seen in a text behind another one. -/
def countBehind (front back : String) : Nat :=
  countFrom (quoteAfter none front.toList) back.toList

/-- Behind a text that closes its quotes all placeholders are seen that a scan of the other text
alone would see. -/
theorem count_behind_closed {front : String} (closed : Closed front) (back : String) :
    countBehind front back = count back := by
  rw [countBehind, closed]
  rfl

/-- A plain text between two others makes no difference to the count: it has no placeholder, and
the second text is scanned from the quote that the first left open. -/
theorem count_between (front between back : String) (plain : Plain between.toList) :
    count (front ++ between ++ back) = count front + countBehind front back := by
  have opened : Opened (quoteAfter none front.toList) := Opened.none.after front.toList
  obtain ⟨kept, counted⟩ := plain.inside opened
  simp only [count, countBehind, String.toList_append, count_append, quote_after_append, kept,
    counted, Nat.add_zero]

end Placeholder

open Placeholder

namespace Clause

/-- Two clauses have the same values, the same number of placeholders and the same open
quote behind them. -/
structure ScansLike (one two : Clause) : Prop where
  values : one.values = two.values
  counted : count one.sql = count two.sql
  quote : quoteAfter none one.sql.toList = quoteAfter none two.sql.toList

/-- Parentheses make no difference to a scan. They have no quotes and no placeholders, also with
NOT in front of them. -/
theorem scans_like_grouped (negated : Bool) (clause : Clause) :
    (clause.grouped negated).ScansLike clause := by
  have both : count (clause.grouped negated).sql = count clause.sql ∧
      quoteAfter none (clause.grouped negated).sql.toList = quoteAfter none clause.sql.toList := by
    cases live : clause.isEmpty with
    | true => rw [grouped_empty negated clause live]; exact ⟨rfl, rfl⟩
    | false =>
      have front : Plain (opening negated).toList := by cases negated <;> decide
      have back : Plain ")".toList := by decide
      have inside := back.inside (Opened.none.after clause.sql.toList)
      rw [grouped_live negated clause live]
      simp only [append_sql, of_text_sql, String.toList_append, count, count_append,
        quote_after_append, front.passed, inside, Nat.zero_add, Nat.add_zero, and_self]
  exact ⟨clause.grouped_values negated, both.1, both.2⟩

/-- A clause is two clauses put together: it has the values of both, the placeholders of the
first, and those that are seen in the second behind it. -/
structure Joins (front back whole : Clause) : Prop where
  values : whole.values = front.values ++ back.values
  seen : count whole.sql = count front.sql + countBehind front.sql back.sql

/-- What matters of the first clause and of the whole is how they are scanned. Others with the
same placeholders, values and open quote do as well. -/
theorem Joins.congr {front back whole other another : Clause} (joins : other.Joins back another)
    (first : other.ScansLike front) (all : whole.ScansLike another) : front.Joins back whole := by
  constructor
  · rw [all.values, joins.values, first.values]
  · rw [all.counted, joins.seen, first.counted, countBehind, countBehind, first.quote]

/-- A plain separator puts two tidy clauses together: the values are those of both, and the
second is scanned behind the first. A clause that the join drops has neither text nor values. -/
theorem joins_join (separator : String) (plain : Plain separator.toList) {front back : Clause}
    (first : front.Tidy) (second : back.Tidy) :
    front.Joins back (join separator [front, back]) := by
  refine ⟨join_pair_values separator first second, ?_⟩
  cases live : front.isEmpty with
  | true =>
    rw [join_cons_empty separator front _ live, second.join_singleton, first.eq_empty live]
    exact (Nat.zero_add _).symm
  | false =>
    rw [join_cons separator front _ live, second.join_singleton]
    split
    · rename_i silent
      rw [second.eq_empty (by simpa using silent)]
      rfl
    · exact count_between _ _ _ plain

/-- A clause is two clauses put together, and as long as the first closes its quotes, its
placeholders are those of both, and as many as its values when that is so for each. -/
structure Adds (front back whole : Clause) : Prop extends front.Joins back whole where
  sum : Closed front.sql → count whole.sql = count front.sql + count back.sql
  fits : Closed front.sql → count front.sql = front.values.length →
    count back.sql = back.values.length → count whole.sql = whole.values.length

/-- What was put together adds up when the text in front closes its quotes, because the second
clause is then scanned as it is by itself. -/
theorem Joins.adds {front back whole : Clause} (joins : front.Joins back whole) :
    front.Adds back whole := by
  have sum : Closed front.sql → count whole.sql = count front.sql + count back.sql :=
    fun closed => by rw [joins.seen, count_behind_closed closed]
  refine ⟨joins, sum, fun closed first second => ?_⟩
  rw [sum closed, joins.values, List.length_append, first, second]

end Clause

/-- Raw SQL that has as many placeholders as values keeps them when it is reduced; parentheses
add none. -/
theorem Reduction.of_raw_fits (config : Config) {sql : String} {values : List Value}
    (negated : Bool) (fits : count sql = values.length) :
    count (ofRaw config sql values negated).fragment.clause.sql =
      (ofRaw config sql values negated).fragment.clause.values.length := by
  unfold ofRaw
  split
  · rfl
  · rw [Fragment.clause, (Clause.scans_like_grouped _ _).counted, Clause.grouped_values]
    exact fits

/-- The separators of both connectives are plain, letters and blanks only. -/
theorem Connective.plain_separator (connective : Connective) :
    Plain connective.separator.toList := by
  cases connective <;> decide

namespace Plan

/-! ## Two conditions -/

/-- The item is what the condition is, with the values written into it. -/
def Condition.WrittenAs (condition : Condition) (item : Input) : Prop :=
  Node.ofInput item [] false = condition.node

/-- Two items are combined: as alternatives of a list, or as children of a node. A list of
two plain texts is left out, and so is one of a text and a plain value. Such a list is raw
SQL, its first item the text and the second the value of its placeholder, and no list of
alternatives; where both are texts and the first has no placeholder it is refused. -/
inductive Couples (one two : Input) : Input → Prop
  | list (apart : Input.splitRaw [one, two] = none) : Couples one two (.list [one, two])
  | and (bare negated : Bool) : Couples one two (.node (.and [one, two] bare negated))
  | or (negated : Bool) : Couples one two (.node (.or [one, two] negated))

/-- Two conditions can be combined, in this order, as two items and one after another in a
plan: each time the result is accepted and adds up. -/
structure Combines (config : Config) (one two : Condition) (first second : Clause) : Prop where
  coupled : ∀ item other whole, one.WrittenAs item → two.WrittenAs other →
    Couples item other whole → ∀ way, ∃ clause,
      (Condition.mk way whole []).Builds config ⟨clause, none⟩ ∧ first.Adds second clause
  planned : ∃ depth clause events,
    ((ofConfig config).after [.add one, .add two]).finish depth = some (.ok clause, events) ∧
      first.Adds second clause

namespace Condition

variable {config : Config} {condition : Condition} {clause : Clause}

/-- Under the strict option nothing is built without an issue unless it is accepted, for a
strict build of a refused condition ends with its issue. -/
theorem Builds.reduces_strict (strict : config.strict = true)
    (builds : condition.Builds config ⟨clause, none⟩) : condition.Reduces config ⟨clause, none⟩ := by
  refine builds.reduces ?_
  by_contra refused
  obtain ⟨issue, taken⟩ := condition.refused_iff.mp (Bool.eq_false_iff.mpr refused)
  obtain ⟨depth, events, finished⟩ := builds
  rw [node] at taken
  have strict : config.toOptions.strict = true := strict
  simp [build, taken, Outcome.refused, strict, Built.ofOutcome] at finished

/-- What the node of an accepted condition is reduced to without an issue is what building the
condition gives. -/
theorem Builds.of_settles {node : Node} {outcome : Outcome} (taken : condition.node = .ok node)
    (settles : Settles config node outcome) (complete : outcome.issue = none) :
    condition.Builds config ⟨outcome.fragment.clause, none⟩ := by
  obtain ⟨depth, reduced⟩ := settles
  rw [Condition.node] at taken
  refine ⟨depth, (Built.ofOutcome outcome).2, ?_⟩
  simp only [build, taken, reduced, Option.map_some, Built.ofOutcome, complete]

/-- The clause to which an accepted condition is reduced is tidy, as all reductions are. -/
theorem Reduces.tidy (reduces : condition.Reduces config ⟨clause, none⟩) : clause.Tidy := by
  obtain ⟨_, _, _, settles, rfl, _⟩ := reduces
  exact settles.tidy

/-- An item that is written for a condition is reduced to what the condition is reduced to,
because both stand for the same node. -/
theorem Reduces.comes_to (reduces : condition.Reduces config ⟨clause, none⟩) {item : Input}
    (written : condition.WrittenAs item) :
    ∃ outcome, item.ComesTo config outcome ∧ outcome.fragment.clause = clause ∧
      outcome.issue = none := by
  obtain ⟨node, outcome, taken, ⟨depth, reduced⟩, same, complete⟩ := reduces
  refine ⟨outcome, ⟨depth, ?_⟩, same, complete⟩
  rw [Reduction.ofInput, written, taken]
  exact reduced

end Condition

section Combining

variable {config : Config} {one two : Condition} {first second : Clause}

/-- Two items are reduced to their clauses one after another, joined and maybe enclosed. In each
of the ways in which they are combined the result is built without an issue. -/
theorem couples_build (oneReduces : one.Reduces config ⟨first, none⟩)
    (twoReduces : two.Reduces config ⟨second, none⟩) {item other whole : Input}
    (oneWritten : one.WrittenAs item) (twoWritten : two.WrittenAs other)
    (couples : Couples item other whole) (way : Way) :
    ∃ clause, (Condition.mk way whole []).Builds config ⟨clause, none⟩ ∧
      first.Joins second clause := by
  obtain ⟨left, leftComes, rfl, leftComplete⟩ := oneReduces.comes_to oneWritten
  obtain ⟨right, rightComes, rfl, rightComplete⟩ := twoReduces.comes_to twoWritten
  have gathers := (((Gathers.nil config).cons rightComes rightComplete).cons leftComes leftComplete)
  have joins (connective : Connective) := Clause.joins_join connective.separator
    connective.plain_separator oneReduces.tidy twoReduces.tidy
  have enclosed (connective : Connective) (negated : Bool) :=
    (joins connective).congr ⟨rfl, rfl, rfl⟩ (Clause.scans_like_grouped negated _)
  cases couples with
  | list apart =>
    have taken : (Condition.mk way (.list [item, other]) []).node =
        .ok (.or [item, other] way.negated) := by
      simp only [Condition.node, Node.ofInput, apart]
    refine ⟨_, .of_settles taken (gathers.disjunction way.negated) rfl, ?_⟩
    rw [Gathered.disjunction_clause]
    exact enclosed .or way.negated
  | or negated =>
    refine ⟨_, .of_settles rfl (gathers.disjunction negated) rfl, ?_⟩
    rw [Gathered.disjunction_clause]
    exact enclosed .or negated
  | and bare negated =>
    refine ⟨_, .of_settles rfl (gathers.conjunction bare negated) rfl, ?_⟩
    rw [Gathered.conjunction_clause]
    split
    · exact joins .and
    · exact enclosed .and negated

/-- One more clause in a plan is put together with the clause so far, in all ways of adding it.
Parentheses around one or both do not change how they are scanned. -/
theorem Way.joins_combine (way : Way) {sofar clause : Clause} (first : sofar.Tidy)
    (second : clause.Tidy) : sofar.Joins clause (way.combine sofar clause) := by
  have plain := Connective.plain_separator
  cases way with
  | and | not => exact Clause.joins_join _ (plain .and) first second
  | or =>
    exact (Clause.joins_join _ (plain .or) (first.grouped false) second).congr
      (Clause.scans_like_grouped false sofar) (Clause.scans_like_grouped false _)

/-- The first clause in a plan may be enclosed, but is scanned as it is by itself, for it is
combined with nothing. -/
theorem Way.combine_scans_like (way : Way) {clause : Clause} (tidy : clause.Tidy) :
    (way.combine .empty clause).ScansLike clause := by
  have alone (separator : String) : Clause.join separator [.empty, clause] = clause :=
    (Clause.join_cons_empty separator .empty _ rfl).trans (tidy.join_singleton separator)
  cases way with
  | and | not =>
    rw [Way.combine, alone]
    exact ⟨rfl, rfl, rfl⟩
  | or =>
    rw [Way.combine, Clause.grouped_empty false .empty rfl, alone]
    exact Clause.scans_like_grouped false clause

/-- A plan to which both conditions were added ends with their clauses put together and without
an issue. Its tree stands for them, and no earlier read is kept. -/
theorem plan_finishes (oneReduces : one.Reduces config ⟨first, none⟩)
    (twoReduces : two.Reduces config ⟨second, none⟩) :
    ∃ depth clause events,
      ((ofConfig config).after [.add one, .add two]).finish depth = some (.ok clause, events) ∧
        first.Joins second clause := by
  obtain ⟨left, leftOutcome, leftTaken, leftSettles, rfl, leftComplete⟩ := id oneReduces
  obtain ⟨right, rightOutcome, rightTaken, rightSettles, rfl, rightComplete⟩ := id twoReduces
  let whole := two.way.combine (one.way.combine .empty leftOutcome.fragment.clause)
    rightOutcome.fragment.clause
  have stands : Stands config (two.way.place (one.way.place .bare left) right) whole none := by
    have both := ((Stands.bare config).place one.way leftSettles).place two.way rightSettles
    rwa [leftComplete, rightComplete] at both
  obtain ⟨outcome, ⟨depth, reduced⟩, written, complete⟩ := stands.settles
  let placed : Plan :=
    { ofConfig config with root := two.way.place (one.way.place .bare left) right }
  have added : (ofConfig config).after [.add one, .add two] = placed := by
    simp only [after, List.foldl_cons, List.foldl_nil, apply_accepted _ _ _ leftTaken,
      apply_accepted _ _ _ rightTaken]
    rfl
  have unread : placed.built = none := rfl
  obtain ⟨answer, read, shown⟩ := read_unread unread reduced
  refine ⟨depth, whole, answer.events, ?finished, ?joins⟩
  case finished =>
    have remembered : placed.issue = none := rfl
    simp only [added, finish, remembered, read, Option.map_some, shown, written, complete,
      Built.result]
  case joins =>
    exact (two.way.joins_combine (one.way.combine_tidy _ _) twoReduces.tidy).congr
      (one.way.combine_scans_like oneReduces.tidy) ⟨rfl, rfl, rfl⟩

end Combining

/-- Conditions that are accepted under the strict option can be combined. Acceptance gives their
reductions, and these are put together as items and in a plan. -/
theorem combines_of_builds {config : Config} (strict : config.strict = true) {one two : Condition}
    {first second : Clause} (oneBuilds : one.Builds config ⟨first, none⟩)
    (twoBuilds : two.Builds config ⟨second, none⟩) : Combines config one two first second := by
  have oneReduces := oneBuilds.reduces_strict strict
  have twoReduces := twoBuilds.reduces_strict strict
  constructor
  · intro item other whole oneWritten twoWritten couples way
    obtain ⟨clause, builds, joins⟩ :=
      couples_build oneReduces twoReduces oneWritten twoWritten couples way
    exact ⟨clause, builds, joins.adds⟩
  · obtain ⟨depth, clause, events, finished, joins⟩ := plan_finishes oneReduces twoReduces
    exact ⟨depth, clause, events, finished, joins.adds⟩

/-- Raw SQL that is accepted has as many placeholders as values, since this is what it is
checked for. -/
theorem text_fits {config : Config} (strict : config.strict = true) {way : Way} {sql : String}
    {values : List Value} {clause : Clause}
    (builds : (Condition.mk way (.text sql) values).Builds config ⟨clause, none⟩) :
    count clause.sql = clause.values.length := by
  obtain ⟨node, outcome, taken, ⟨depth, reduced⟩, rfl, _⟩ := builds.reduces_strict strict
  obtain ⟨fits, rfl⟩ := Node.of_raw_ok taken
  cases depth with
  | zero => cases reduced
  | succ depth =>
    obtain rfl := Option.some.inj reduced
    exact Reduction.of_raw_fits config way.negated fits

/-- Raw SQL and any other condition, each of which is accepted by itself under the strict
option, can be combined in either order: as two items of a list or of a node and one after
another in a plan, the result is accepted again, and its values are those of both. When the
text in front closes its quotes the placeholders are those of both as well. In general the
ones behind it are those that are seen from the quote that it leaves open. Two plain texts
are combined as children of a node or in a plan; as the two items of a list they would be
one piece of raw SQL with a value, which is another condition.

Nothing is checked of the combined text, so acceptance needs no more than that neither part
has an issue. The count is one scan over both texts with plain text around them. -/
theorem accepted_conditions_combine (config : Config) (strict : config.strict = true) (way : Way)
    (sql : String) (values : List Value) (condition : Condition) (raw other : Clause)
    (accepted : (Condition.mk way (.text sql) values).Builds config ⟨raw, none⟩)
    (acceptedToo : condition.Builds config ⟨other, none⟩) :
    count raw.sql = raw.values.length ∧
      Combines config ⟨way, .text sql, values⟩ condition raw other ∧
      Combines config condition ⟨way, .text sql, values⟩ other raw :=
  ⟨text_fits strict accepted, combines_of_builds strict accepted acceptedToo,
    combines_of_builds strict acceptedToo accepted⟩

/-- Raw SQL with an apostrophe in a quoted span. -/
def ownerCondition : Condition := ⟨.and, .text "owner = ? OR name = \"o'hara\"", [.int 7]⟩

/-- The same with its value in a list. -/
def ownerItem : Input := .list [.text "owner = ? OR name = \"o'hara\"", .value (.int 7)]

/-- A mapping of two keys. -/
def adultCondition : Condition :=
  ⟨.and, .fields (.ofList [("age__gte", .int 18), ("vip", .bool true)]), []⟩

/-- Raw SQL with an apostrophe in a quoted span, as alternative to a mapping. Its spans are
closed, so the counts of both add up to the three values. -/
theorem owner_or_adult_combine :
    (strictConfig.strict = true ∧
      ownerCondition.Builds strictConfig
        ⟨⟨"(owner = ? OR name = \"o'hara\")", [.int 7]⟩, none⟩ ∧
      adultCondition.Builds strictConfig
        ⟨⟨"(\"age\" >= ? AND \"vip\" = ?)", [.int 18, .bool true]⟩, none⟩) ∧
      ∃ clause,
        (Condition.mk .and (.list [ownerItem, adultCondition.input]) []).Builds strictConfig
          ⟨clause, none⟩ ∧
        clause.values = [.int 7, .int 18, .bool true] ∧ count clause.sql = 3 := by
  have owner : ownerCondition.Builds strictConfig
      ⟨⟨"(owner = ? OR name = \"o'hara\")", [.int 7]⟩, none⟩ := ⟨1, _, rfl⟩
  have adult : adultCondition.Builds strictConfig
      ⟨⟨"(\"age\" >= ? AND \"vip\" = ?)", [.int 18, .bool true]⟩, none⟩ := ⟨1, _, rfl⟩
  have combines := (accepted_conditions_combine strictConfig rfl .and _ _ _ _ _ owner adult).2.1
  obtain ⟨clause, builds, adds⟩ := combines.coupled ownerItem adultCondition.input _ rfl rfl
    (.list rfl) .and
  refine ⟨⟨rfl, owner, adult⟩, clause, builds, adds.values, ?_⟩
  rw [adds.sum (by decide)]
  decide

/-- An apostrophe in a comment hides the placeholder of the other text. Both are accepted,
each with as many placeholders as values, and so are the two together, with a value but
without a placeholder. -/
theorem apostrophe_hides_placeholder :
    (Condition.mk .and (.text "active /* user's choice */") []).Builds strictConfig
        ⟨⟨"(active /* user's choice */)", []⟩, none⟩ ∧
      (Condition.mk .and (.text "level > ?") [.int 3]).Builds strictConfig
        ⟨⟨"(level > ?)", [.int 3]⟩, none⟩ ∧
      count "(active /* user's choice */)" = 0 ∧ count "(level > ?)" = 1 ∧
      (Condition.mk .and (.list [.text "active /* user's choice */",
        .list [.text "level > ?", .value (.int 3)]]) []).Builds strictConfig
        ⟨⟨"((active /* user's choice */) OR (level > ?))", [.int 3]⟩, none⟩ ∧
      count "((active /* user's choice */) OR (level > ?))" = 0 :=
  ⟨⟨1, _, rfl⟩, ⟨1, _, rfl⟩, by decide, by decide, ⟨2, _, rfl⟩, by decide⟩

end Plan

end SqlCondition
