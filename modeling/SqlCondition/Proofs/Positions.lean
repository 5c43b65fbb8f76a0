import Mathlib.Data.List.Induction
import SqlCondition.Proofs.Emission

/-!
# Numbering position by position

What numbering writes can be said of each position of a text by itself, without a scan:
at a placeholder that has a value stand the names of the parameters the value provides,
and at every other position stands the character that was there. Which value belongs to
a placeholder depends on the placeholders before it, and which numbers its parameters
have depends on the parameters before it.

Nothing in this description is taken from the scan. Quoted spans are told as pieces of the
text, each from a quote to the next one of its kind, and a position is outside of them
when the text before it is made of such spans and of plain characters. That the scan keeps
to these spans is proved first.

Numbering is a loop over the text. The invariant relates its state at a position to the
text before that position: the open quote, the last character, the parameters so far
and the values that are left.
-/

namespace SqlCondition.Placeholder

/-! ## Quoted spans -/

/-- The characters that enclose quoted spans. -/
def quoteMarks : List Char := ['"', '\x60', '\'']

/-- A text that ends outside quoted spans, made of characters that enclose nothing and of
whole spans. A span begins with a mark and ends with the next one that is the same; other
marks inside it are characters like any. -/
inductive Outside : List Char → Prop
  | nil : Outside []
  | plain {front : List Char} {character : Char} (before : Outside front)
      (unquoted : character ∉ quoteMarks) : Outside (front ++ [character])
  | span {front inside : List Char} {mark : Char} (before : Outside front)
      (opens : mark ∈ quoteMarks) (unclosed : mark ∉ inside) :
      Outside (front ++ (mark :: inside ++ [mark]))

/-- The scan takes the same characters for quotes: double ones, single ones and the backtick. -/
theorem is_quote_iff (character : Char) : isQuote character = true ↔ character ∈ quoteMarks := by
  simp [isQuote, quoteMarks, or_assoc]

/-- Inside a span the scan waits for its mark. Whatever else comes, other marks included, the
span stays open. -/
theorem quote_after_inside {mark : Char} {inside : List Char} (unclosed : mark ∉ inside) :
    quoteAfter (some mark) inside = some mark := by
  induction inside with
  | nil => rfl
  | cons character rest inductionHypothesis =>
    obtain ⟨different, later⟩ := not_or.mp (mt List.mem_cons.mpr unclosed)
    have stays : step (some mark) character = some mark := by simp [step, Ne.symm different]
    rw [quoteAfter, List.foldl_cons, stays]
    exact inductionHypothesis later

/-- Behind a text that ends outside quoted spans the scan has no quote open. By induction over
the pieces: a plain character opens nothing, and a span closes what it opens. -/
theorem Outside.quote_after {text : List Char} (outside : Outside text) :
    quoteAfter none text = none := by
  induction outside with
  | nil => rfl
  | @plain front character before unquoted inductionHypothesis =>
    have passed : isQuote character = false := by
      rw [Bool.eq_false_iff, ne_eq, is_quote_iff]
      exact unquoted
    rw [quote_after_append, inductionHypothesis]
    simp [quoteAfter, step, passed]
  | @span front inside mark before opens unclosed inductionHypothesis =>
    have opened : step none mark = some mark := by simp [step, (is_quote_iff mark).mpr opens]
    rw [quote_after_append, inductionHypothesis, quote_after_append]
    have entered : quoteAfter none (mark :: inside) = some mark := by
      rw [quoteAfter, List.foldl_cons, opened]
      exact quote_after_inside unclosed
    rw [entered]
    simp [quoteAfter, step]

/-- A quote that the scan has open was met outside all spans before it, and has not come
again since. With no quote open the text ends outside. One more character, and the text of
either kind is of one of them again. -/
theorem quote_after_cases (text : List Char) :
    match quoteAfter none text with
    | none => Outside text
    | some mark => ∃ front inside, text = front ++ mark :: inside ∧ Outside front ∧
        mark ∈ quoteMarks ∧ mark ∉ inside := by
  induction text using List.reverseRecOn with
  | nil => exact .nil
  | append_singleton before last inductionHypothesis =>
    rw [quote_after_append]
    cases current : quoteAfter none before with
    | none =>
      simp only [current] at inductionHypothesis
      by_cases quote : isQuote last = true
      · simp only [quoteAfter, List.foldl_cons, List.foldl_nil, step, quote, if_true]
        exact ⟨before, [], rfl, inductionHypothesis, (is_quote_iff last).mp quote,
          List.not_mem_nil⟩
      · simp only [quoteAfter, List.foldl_cons, List.foldl_nil, step, quote, if_false,
          Bool.false_eq_true]
        exact .plain inductionHypothesis (mt (is_quote_iff last).mpr quote)
    | some mark =>
      simp only [current] at inductionHypothesis
      obtain ⟨front, inside, rfl, outside, opens, unclosed⟩ := inductionHypothesis
      by_cases closes : last = mark
      · simp only [quoteAfter, List.foldl_cons, List.foldl_nil, step, closes, if_true]
        rw [List.append_assoc]
        exact .span outside opens unclosed
      · simp only [quoteAfter, List.foldl_cons, List.foldl_nil, step, closes, if_false]
        refine ⟨front, inside ++ [last], by simp, outside, opens, ?_⟩
        simp [unclosed, Ne.symm closes]

/-- The scan has no quote open behind exactly those texts that end outside quoted spans. So it
can be asked whether a text ends outside. -/
theorem quote_after_eq_none_iff (text : List Char) :
    quoteAfter none text = none ↔ Outside text := by
  constructor
  · intro closed
    have told := quote_after_cases text
    rwa [closed] at told
  · exact Outside.quote_after

instance (text : List Char) : Decidable (Outside text) :=
  decidable_of_iff _ (quote_after_eq_none_iff text)

/-! ## What stands at a position -/

/-- A question mark stands at the position, and the text before it ends outside quoted
spans. -/
def MarkedAt (text : List Char) (position : Nat) : Prop :=
  text[position]? = some '?' ∧ Outside (text.take position)

/-- The position is directly between parentheses. -/
def EnclosedAt (text : List Char) (position : Nat) : Prop :=
  0 < position ∧ text[position - 1]? = some '(' ∧ text[position + 1]? = some ')'

instance (text : List Char) (position : Nat) : Decidable (MarkedAt text position) :=
  inferInstanceAs (Decidable (_ ∧ _))

instance (text : List Char) (position : Nat) : Decidable (EnclosedAt text position) :=
  inferInstanceAs (Decidable (_ ∧ _ ∧ _))

/-- The placeholders before a position. -/
def marksBefore (text : List Char) (position : Nat) : Nat :=
  (List.range position).countP fun earlier => decide (MarkedAt text earlier)

/-- The value of the placeholder at a position: the first placeholder has the first
value, the second one the second. -/
def valueAt (text : List Char) (values : List Value) (position : Nat) : Option Value :=
  if MarkedAt text position then values[marksBefore text position]? else none

/-- The parameters that the value at a position provides. Directly between parentheses a
list provides its members, each as one parameter. Everywhere else, and for any other value,
there is one parameter, the value itself. -/
def parametersAt (text : List Char) (values : List Value) (position : Nat) :
    Option (List Value) :=
  (valueAt text values position).map fun value =>
    if EnclosedAt text position then value.asList.getD [value] else [value]

/-- The parameters of all positions before a position. -/
def parametersBefore (text : List Char) (values : List Value) (position : Nat) : List Value :=
  (List.range position).flatMap fun earlier => (parametersAt text values earlier).getD []

/-- The parameters at a position, each with its number. -/
def boundAt (text : List Char) (values : List Value) (earlier position : Nat) :
    Option (List (Value × Nat)) :=
  (parametersAt text values position).map fun group =>
    group.zipIdx (earlier + (parametersBefore text values position).length + 1)

/-- What stands at a position after numbering. -/
def writtenAt (text : List Char) (values : List Value) (earlier position : Nat) : List Char :=
  match boundAt text values earlier position with
  | none => text[position]?.toList
  | some group => spelled (group.map fun entry => String.ofList ('$' :: Text.decimal entry.2))

/-! ## The state of the loop at a position -/

/-- Numbering provides the same parameters for a value as the rule for lists does, whether
parentheses enclose the placeholder or not. -/
theorem parameters_eq (enclosed : Prop) [Decidable enclosed] (value : Value) :
    parameters (decide enclosed) value =
      if enclosed then value.asList.getD [value] else [value] := by
  by_cases between : enclosed
  · rw [if_pos between, decide_eq_true between]
    cases value <;> rfl
  · rw [if_neg between, decide_eq_false between]
    cases value <;> rfl

section State

variable (front rest : List Char) (character : Char)

/-- Right behind a front stands the first character of the rest of the text. -/
theorem character_at_front : (front ++ character :: rest)[front.length]? = some character := by
  rw [List.getElem?_append_right (Nat.le_refl _), Nat.sub_self]
  rfl

/-- Behind a front, the scan sees a placeholder exactly where one is marked. It has no quote
open there when the front ends outside quoted spans. -/
theorem marked_at_iff : MarkedAt (front ++ character :: rest) front.length ↔
    isMark (quoteAfter none front) character = true := by
  unfold MarkedAt
  rw [List.take_left, character_at_front, ← quote_after_eq_none_iff]
  cases quoteAfter none front <;> simp [isMark]

/-- Behind a front, the last character and the next one tell whether the position is enclosed.
These are the two characters that the loop looks at. -/
theorem enclosed_at_iff : EnclosedAt (front ++ character :: rest) front.length ↔
    front.getLast? = some '(' ∧ rest.head? = some ')' := by
  have next : (front ++ character :: rest)[front.length + 1]? = rest.head? := by
    rw [List.getElem?_append_right (Nat.le_add_right _ 1), Nat.add_sub_cancel_left]
    cases rest <;> rfl
  unfold EnclosedAt
  rw [next]
  cases front using List.reverseRecOn with
  | nil => simp
  | append_singleton before last => simp

end State

/-- The placeholders marked in the front of a text are those that are counted there, however the
text goes on. -/
theorem marks_before_front (front back : List Char) :
    marksBefore (front ++ back) front.length = countFrom none front := by
  induction front using List.reverseRecOn generalizing back with
  | nil => rfl
  | append_singleton before last inductionHypothesis =>
    rw [List.append_assoc, List.singleton_append, List.length_append, List.length_singleton,
      count_append, ← inductionHypothesis (last :: back)]
    simp [marksBefore, List.range_succ, marked_at_iff, countFrom]

/-- One more position provides the parameters that stand there, behind all earlier ones. -/
theorem parameters_before_succ (text : List Char) (values : List Value) (position : Nat) :
    parametersBefore text values (position + 1) =
      parametersBefore text values position ++ (parametersAt text values position).getD [] := by
  simp [parametersBefore, List.range_succ]

/-- The text at a position is a rendering of the parameters there, or the character that
was there. -/
theorem written_at_eq (text : List Char) (values : List Value) (earlier position : Nat) :
    writtenAt text values earlier position =
      match parametersAt text values position with
      | none => text[position]?.toList
      | some group =>
          (rendering (earlier + (parametersBefore text values position).length)
            group.length).toList := by
  unfold writtenAt boundAt
  cases parametersAt text values position with
  | none => rfl
  | some group =>
    simp only [Option.map_some]
    rw [rendering_eq_spelled, names, ← List.zipIdx_map_snd _ group, List.map_map]
    rfl

/-- The parameters at the position behind a front, by the values that are left there. The first
of them belongs to the placeholder, as those before it went to earlier ones. -/
theorem parameters_at_front (values : List Value) (front rest : List Char) (character : Char) :
    parametersAt (front ++ character :: rest) values front.length =
      if isMark (quoteAfter none front) character then
        (values.drop (countFrom none front)).head?.map
          (parameters (decide (front.getLast? = some '(') && decide (rest.head? = some ')')))
      else none := by
  unfold parametersAt valueAt
  simp only [← parameters_eq, marked_at_iff, enclosed_at_iff, marks_before_front,
    List.head?_drop, Bool.decide_and]
  split <;> rfl

/-- Numbering a text from some position on: the quote, the last character, the number of
parameters and the values that are left are those behind the text before it. -/
theorem number_from_position (values : List Value) (earlier : Nat) (front rest : List Char) :
    numberFrom (quoteAfter none front) front.getLast?
        (earlier + (parametersBefore (front ++ rest) values front.length).length)
        (values.drop (countFrom none front)) rest =
      ((List.range' front.length rest.length).flatMap (writtenAt (front ++ rest) values earlier),
        (List.range' front.length rest.length).flatMap fun position =>
          (parametersAt (front ++ rest) values position).getD []) := by
  induction rest generalizing front with
  | nil => rfl
  | cons character rest inductionHypothesis =>
    have here := parameters_at_front values front rest character
    have written := written_at_eq (front ++ character :: rest) values earlier front.length
    have stepped : quoteAfter (quoteAfter none front) [character] =
        step (quoteAfter none front) character := rfl
    have counted : countFrom (quoteAfter none front) [character] =
        if isMark (quoteAfter none front) character then 1 else 0 := Nat.add_zero _
    -- Behind one more character the invariant is about the state with which the loop goes on.
    have later := inductionHypothesis (front ++ [character])
    simp only [List.append_assoc, List.singleton_append, List.length_append, List.length_singleton,
      parameters_before_succ, quote_after_append, List.getLast?_concat, count_append,
      ← List.drop_drop, stepped, counted, ← Nat.add_assoc] at later
    rw [List.length_cons, List.range'_succ, List.flatMap_cons, List.flatMap_cons, written]
    cases marked : isMark (quoteAfter none front) character with
    | false =>
      simp only [marked, Bool.false_eq_true, if_false] at here
      simp only [here, marked, Bool.false_eq_true, if_false, Option.getD_none, List.length_nil,
        List.drop_zero, Nat.add_zero] at later
      simp only [numberFrom, here, marked, Bool.false_eq_true, if_false, character_at_front, later]
      rfl
    | true =>
      obtain ⟨_, closed⟩ := step_mark marked
      cases left : values.drop (countFrom none front) with
      | nil =>
        simp only [marked, left, if_true, List.head?_nil, Option.map_none] at here
        simp only [here, left, closed, Option.getD_none, List.length_nil, List.drop_nil,
          Nat.add_zero] at later
        simp only [numberFrom, here, marked, if_true, character_at_front, later]
        rfl
      | cons value others =>
        simp only [marked, left, if_true, List.head?_cons, Option.map_some] at here
        simp only [here, left, closed, marked, if_true, Option.getD_some, List.drop_succ_cons,
          List.drop_zero] at later
        simp only [numberFrom, here, marked, if_true, Option.getD_some, later]

/-- The parameters of all positions are bound to consecutive numbers, each position going on
where those before it ended. -/
theorem bound_consecutive (text : List Char) (values : List Value) (earlier position : Nat) :
    ((List.range position).flatMap fun each => (boundAt text values earlier each).getD []) =
      (parametersBefore text values position).zipIdx (earlier + 1) := by
  induction position with
  | zero => rfl
  | succ position inductionHypothesis =>
    rw [List.range_succ, List.flatMap_append, inductionHypothesis, parameters_before_succ,
      List.zipIdx_append, Nat.add_right_comm earlier, List.flatMap_singleton, boundAt]
    cases parametersAt text values position <;> rfl

/-- Values for which there is no placeholder are not used, so those beyond the count may be left
out. -/
theorem number_from_take (quote previous : Option Char) (earlier : Nat) (values : List Value)
    (text : List Char) :
    numberFrom quote previous earlier (values.take (countFrom quote text)) text =
      numberFrom quote previous earlier values text := by
  induction text generalizing quote previous earlier values with
  | nil => rfl
  | cons character rest inductionHypothesis =>
    cases marked : isMark quote character with
    | false => simp [numberFrom, countFrom, marked, inductionHypothesis]
    | true =>
      obtain ⟨rfl, closed⟩ := step_mark marked
      cases values with
      | nil => rw [List.take_nil]
      | cons value others =>
        simp only [numberFrom, countFrom, marked, if_true, closed, Nat.add_comm 1,
          List.take_succ_cons, inductionHypothesis]

/-- From the front of a text the loop writes every position and provides the parameters of
all of them. It is the state behind an empty front: no quote open, nothing in front, all
values left. -/
theorem number_from_front (values : List Value) (earlier : Nat) (text : List Char) :
    numberFrom none none earlier values text =
      ((List.range text.length).flatMap (writtenAt text values earlier),
        parametersBefore text values text.length) := by
  rw [parametersBefore, List.range_eq_range']
  exact number_from_position values earlier [] text

/-- The parameters of a numbered text are those of its positions, in the order of the text. -/
theorem number_values (sql : String) (values : List Value) (earlier : Nat) :
    (number sql values earlier).values =
      parametersBefore sql.toList values sql.toList.length := by
  rw [number, number_from_front]

/-- A clause is the numbering of a text with values after so many earlier parameters, told
by the positions of the text. -/
structure ByPosition (sql : String) (values : List Value) (earlier : Nat) (numbered : Clause) :
    Prop where
  /-- Each position of the text is written by itself. -/
  written : numbered.sql.toList =
    (List.range sql.toList.length).flatMap (writtenAt sql.toList values earlier)
  /-- The parameters are those of all positions. -/
  provided : numbered.values = parametersBefore sql.toList values sql.toList.length
  /-- The numbers that are written continue the earlier ones without gap or repetition, and
  each belongs to the parameter of its rank. -/
  consecutive : ((List.range sql.toList.length).flatMap fun position =>
    (boundAt sql.toList values earlier position).getD []) = numbered.values.zipIdx (earlier + 1)
  /-- Values beyond the placeholders have no effect. -/
  surplus : numbered = number sql (values.take (count sql)) earlier
  /-- Counting finds the placeholders that numbering finds. -/
  counted : count sql = marksBefore sql.toList sql.toList.length
  /-- Placeholders beyond the values are left, and no others appear. -/
  remaining : count numbered.sql = count sql - min (count sql) values.length

/-- Numbering does at each position of a text what the position asks for, whatever the text, the
values and the earlier parameters are.

The loop is followed from position to position. Its state at each of them is told by the text
before it, so what it writes there is what the position asks for. -/
theorem number_position_by_position (sql : String) (values : List Value) (earlier : Nat) :
    ByPosition sql values earlier (number sql values earlier) := by
  have provided := number_values sql values earlier
  refine ⟨?written, provided, ?consecutive, ?surplus, ?counted, ?remaining⟩
  case written => rw [number, number_from_front, String.toList_ofList]
  case consecutive => rw [provided, bound_consecutive]
  case surplus => simp only [number, count, number_from_take]
  case counted =>
    have all := marks_before_front sql.toList []
    rw [List.append_nil] at all
    exact all.symm
  case remaining =>
    simp only [number, count, String.toList_ofList, count_number_from]
    omega

example : (number "(?) '?' ? ?" [.list [], .null] 4).sql = "(NULL) '?' $5 ?" := by decide

end SqlCondition.Placeholder
