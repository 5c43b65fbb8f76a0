import SqlCondition.Proofs.Scan

/-!
# What numbering writes

Numbering leaves a text as it is but for its placeholders, of which as many as there
are values are filled. A placeholder is filled with the names of the parameters that
its value provides, or with `NULL` when it provides none. The names are consecutive
over the whole text, so that every parameter is named once and in order.

What is filled in has neither quotes nor question marks. A scan of the numbered text
is therefore in the same quote as a scan of the text, and counts the placeholders
that were not filled.
-/

namespace SqlCondition.Placeholder

/-- A text without quotes and question marks. -/
def Plain (text : List Char) : Prop :=
  ∀ character ∈ text, isQuote character = false ∧ character ≠ '?'

instance (text : List Char) : Decidable (Plain text) := List.decidableBAll _ text

namespace Plain

/-- Plain texts one after another are plain, since plainness is a property of the single
characters. -/
theorem append {front back : List Char} (first : Plain front) (second : Plain back) :
    Plain (front ++ back) := by
  intro character inside
  rcases List.mem_append.mp inside with early | late
  · exact first character early
  · exact second character late

/-- A plain text opens no quote and holds no placeholder, when a scan comes to it outside quoted
spans. -/
theorem passed {text : List Char} (plain : Plain text) :
    quoteAfter none text = none ∧ countFrom none text = 0 := by
  induction text with
  | nil => exact ⟨rfl, rfl⟩
  | cons character rest inductionHypothesis =>
    obtain ⟨unquoted, unmarked⟩ := plain character List.mem_cons_self
    have later : Plain rest := fun other inside => plain other (List.mem_cons_of_mem _ inside)
    obtain ⟨closed, counted⟩ := inductionHypothesis later
    have stepped : step none character = none := by simp [step, unquoted]
    constructor
    · rw [quoteAfter, List.foldl_cons, stepped]
      exact closed
    · simp [countFrom, isMark, unmarked, stepped, counted]

/-- Digits are plain: none of them is a quote or a question mark. -/
theorem of_digits {text : List Char} (digits : ∀ character ∈ text, character.isDigit = true) :
    Plain text := by
  intro character inside
  have digit : character.isDigit = true := digits character inside
  constructor
  · apply Bool.eq_false_iff.mpr
    intro quote
    simp only [isQuote, Bool.or_eq_true, decide_eq_true_eq] at quote
    rcases quote with (rfl | rfl) | rfl <;> exact absurd digit (by decide)
  · rintro rfl
    exact absurd digit (by decide)

/-- Plain texts with a plain separator between them are plain, by induction along the row of
texts. -/
theorem join (separator : String) (between : Plain separator.toList) (texts : List String)
    (each : ∀ text ∈ texts, Plain text.toList) : Plain (Text.join separator texts).toList := by
  induction texts with
  | nil =>
    intro character inside
    cases inside
  | cons text rest inductionHypothesis =>
    have first : Plain text.toList := each text List.mem_cons_self
    cases rest with
    | nil => exact first
    | cons next more =>
      have later := inductionHypothesis fun other inside =>
        each other (List.mem_cons_of_mem _ inside)
      rw [Text.join, String.toList_append, String.toList_append]
      exact (first.append between).append later

end Plain

/-- The names of consecutive parameters in two runs are those of one run, where the second run
starts behind the first. -/
theorem names_append (earlier first second : Nat) :
    names earlier first ++ names (earlier + first) second = names earlier (first + second) := by
  unfold names
  rw [← List.map_append, Nat.add_right_comm, List.range'_append_1]

/-- The names of parameters are plain. They are a dollar sign and digits. -/
theorem plain_names (earlier amount : Nat) : ∀ name ∈ names earlier amount, Plain name.toList := by
  intro name listed
  obtain ⟨number, _, rfl⟩ := List.mem_map.mp listed
  have digits : Plain (Text.decimal number) :=
    Plain.of_digits fun character inside =>
      Nat.isDigit_of_mem_toDigits (by decide) (by decide) inside
  have sign : Plain ['$'] := by decide
  rw [String.toList_ofList]
  exact sign.append digits

/-- The names that fill one placeholder, as they are written. -/
def spelled (group : List String) : List Char :=
  (if group.isEmpty then "NULL" else Text.join ", " group).toList

/-- A rendering spells consecutive names, and spells `NULL` where there are none. -/
theorem rendering_eq_spelled (earlier amount : Nat) :
    (rendering earlier amount).toList = spelled (names earlier amount) := by
  cases amount with
  | zero => rfl
  | succ amount => rfl

/-- Names that are plain are spelled plainly, with commas and blanks between, and `NULL` is
plain too. -/
theorem plain_spelled (group : List String) (each : ∀ name ∈ group, Plain name.toList) :
    Plain (spelled group) := by
  unfold spelled
  split
  · decide
  · exact Plain.join ", " (by decide) group each

/-- A rendering is plain, so that what is filled in for a placeholder can hide no later one and
is none itself. -/
theorem plain_rendering (earlier amount : Nat) : Plain (rendering earlier amount).toList := by
  rw [rendering_eq_spelled]
  exact plain_spelled _ (plain_names earlier amount)

/-- A rendering is never blank: it is `NULL` or begins with a dollar sign. -/
theorem rendering_ne_empty (earlier amount : Nat) : rendering earlier amount ≠ "" := by
  intro blank
  have noCharacters : (rendering earlier amount).toList = [] := by rw [blank]; rfl
  rw [rendering_eq_spelled] at noCharacters
  cases amount with
  | zero => exact absurd noCharacters (by decide : spelled [] ≠ [])
  | succ amount =>
    rw [names, List.range'_succ, List.map_cons] at noCharacters
    cases more : List.range' (earlier + 1 + 1) amount <;>
      simp [spelled, more, Text.join] at noCharacters

/-- The text with its placeholders replaced by fillings one by one, as long as there
are some. -/
def refill (quote : Option Char) (fillings : List (List Char)) : List Char → List Char
  | [] => []
  | character :: rest =>
      if isMark quote character then
        match fillings with
        | [] => character :: refill none [] rest
        | filling :: others => filling ++ refill none others rest
      else character :: refill (step quote character) fillings rest

/-- A placeholder stands outside quotes, and opens none. So the scan behind it is in the same
state as before it. -/
theorem step_mark {quote : Option Char} {character : Char}
    (marked : isMark quote character = true) : quote = none ∧ step quote character = none := by
  cases quote with
  | some _ => cases marked
  | none =>
    have question : character = '?' := by simpa [isMark] using marked
    subst question
    exact ⟨rfl, rfl⟩

/-- Numbering fills the placeholders that have values, each with a group of names, and
the groups together are the names of all parameters in order. -/
theorem number_from_fills (quote previous : Option Char) (earlier : Nat) (values : List Value)
    (text : List Char) :
    ∃ groups : List (List String), groups.length = min values.length (countFrom quote text) ∧
      groups.flatten = names earlier (numberFrom quote previous earlier values text).2.length ∧
      (numberFrom quote previous earlier values text).1 =
        refill quote (groups.map spelled) text := by
  induction text generalizing quote previous earlier values with
  | nil => exact ⟨[], by simp [countFrom], rfl, rfl⟩
  | cons character rest inductionHypothesis =>
    cases marked : isMark quote character with
    | false =>
      obtain ⟨groups, amount, all, filled⟩ :=
        inductionHypothesis (step quote character) (some character) earlier values
      refine ⟨groups, ?_, ?_, ?_⟩
      · simpa [countFrom, marked] using amount
      · simpa [numberFrom, marked] using all
      · simp [numberFrom, refill, marked, filled]
    | true =>
      obtain ⟨_, closed⟩ := step_mark marked
      cases values with
      | nil =>
        obtain ⟨groups, amount, all, filled⟩ :=
          inductionHypothesis none (some character) earlier []
        have noGroups : groups = [] := List.length_eq_zero_iff.mp (by simpa using amount)
        subst noGroups
        refine ⟨[], by simp, ?_, ?_⟩
        · simpa [numberFrom, marked] using all
        · simp [numberFrom, refill, marked, filled]
      | cons value others =>
        let parenthesized := previous = some '(' && rest.head? = some ')'
        let amount := (parameters parenthesized value).length
        obtain ⟨groups, number, all, filled⟩ :=
          inductionHypothesis none (some character) (earlier + amount) others
        refine ⟨names earlier amount :: groups, ?_, ?_, ?_⟩
        · simp only [countFrom, marked, if_true, closed, List.length_cons, number]
          omega
        · simp only [numberFrom, marked, if_true, List.flatten_cons, all, names_append,
            List.length_append]
          rfl
        · simp only [numberFrom, refill, marked, if_true, List.map_cons, ← rendering_eq_spelled,
            ← filled]
          rfl

/-- Numbering leaves the placeholders for which there is no value, and no others. What it fills
in is plain, so that the count behind a filling goes on as before. -/
theorem count_number_from (quote previous : Option Char) (earlier : Nat) (values : List Value)
    (text : List Char) :
    countFrom quote (numberFrom quote previous earlier values text).1 =
      countFrom quote text - values.length := by
  induction text generalizing quote previous earlier values with
  | nil => simp [numberFrom, countFrom]
  | cons character rest inductionHypothesis =>
    cases marked : isMark quote character with
    | false => simp [numberFrom, countFrom, marked, inductionHypothesis]
    | true =>
      obtain ⟨rfl, closed⟩ := step_mark marked
      cases values with
      | nil => simp [numberFrom, countFrom, marked, closed, inductionHypothesis]
      | cons value others =>
        have written (amount : Nat) := (plain_rendering earlier amount).passed
        simp only [numberFrom, marked, if_true, count_append, (written _).1, (written _).2,
          inductionHypothesis]
        simp only [countFrom, marked, if_true, closed, List.length_cons]
        omega

/-- Without values a text stays as it is, and no parameter is provided. -/
theorem number_from_nil (quote previous : Option Char) (earlier : Nat) (text : List Char) :
    numberFrom quote previous earlier [] text = (text, []) := by
  induction text generalizing quote previous with
  | nil => rfl
  | cons character rest inductionHypothesis =>
    simp only [numberFrom, inductionHypothesis]
    split <;> rfl

/-- Numbering blanks no text and writes nothing for an empty one. A placeholder becomes a
rendering, and any other character stays. -/
theorem number_from_eq_nil_iff (quote previous : Option Char) (earlier : Nat) (values : List Value)
    (text : List Char) : (numberFrom quote previous earlier values text).1 = [] ↔ text = [] := by
  cases text with
  | nil => simp [numberFrom]
  | cons character rest =>
    simp only [numberFrom]
    split
    · cases values with
      | nil => simp
      | cons value others => simp [rendering_ne_empty]
    · simp

end SqlCondition.Placeholder
