import Mathlib.Data.List.Infix
import SqlCondition.Reduction

/-!
# Keys made of a column and an operator

A key is cut at the first occurrence of the separator, and what follows at the next one.
When a column and the name of an operator are joined by the separator, the first
occurrence is the one between them, unless another one begins in the column already and
ends inside the separator. This can be when an end of the column is how the separator
begins: with two underscores between the parts, a column that ends in an underscore is
read without it. How the name of the operator begins never matters, since what is cut
off first is taken away as a whole.
-/

namespace SqlCondition

namespace Text

/-- A text in which the separator does not occur is not cut, and nothing stands behind it. -/
theorem cut_absent (separator text : List Char) (absent : ¬ separator <:+: text) :
    cut separator text = (text, none) := by
  induction text with
  | nil => rfl
  | cons character rest inductionHypothesis =>
    obtain ⟨notHere, notLater⟩ := not_or.mp fun occurs => absent (List.infix_cons_iff.mpr occurs)
    cases found : separator.isPrefixOf? (character :: rest) with
    | some after =>
      exact absurd ⟨after, List.isPrefixOf?_eq_some_iff_append_eq.mp found⟩ notHere
    | none => simp only [cut, found, inductionHypothesis notLater]

/-- A text that begins with the separator is cut at once: nothing stands in front, and the rest
behind. -/
theorem cut_at_once (separator rest : List Char) (visible : separator ≠ []) :
    cut separator (separator ++ rest) = ([], some rest) := by
  have found : separator.isPrefixOf? (separator ++ rest) = some rest :=
    List.isPrefixOf?_eq_some_iff_append_eq.mpr rfl
  cases separator with
  | nil => exact absurd rfl visible
  | cons first others =>
    rw [List.cons_append] at found ⊢
    simp only [cut, found]

/-- Two texts joined by the separator are cut where they were joined when no occurrence
ends before the one between them does. -/
theorem cut_joined (separator front rest : List Char) (visible : separator ≠ [])
    (only : ¬ separator <:+: front ++ separator.dropLast) :
    cut separator (front ++ (separator ++ rest)) = (front, some rest) := by
  induction front with
  | nil => exact cut_at_once separator rest visible
  | cons character front inductionHypothesis =>
    rw [List.cons_append] at only ⊢
    obtain ⟨notHere, notLater⟩ := not_or.mp fun occurs => only (List.infix_cons_iff.mpr occurs)
    cases found : separator.isPrefixOf? (character :: (front ++ (separator ++ rest))) with
    | none => simp only [cut, found, inductionHypothesis notLater]
    | some after =>
      -- The occurrence is too short to reach the end of the one between the texts.
      have begins : separator <+: character :: (front ++ (separator ++ rest)) :=
        ⟨after, List.isPrefixOf?_eq_some_iff_append_eq.mp found⟩
      have shared : character :: (front ++ separator.dropLast) <+:
          character :: (front ++ (separator ++ rest)) := by
        rw [List.prefix_cons_inj, List.prefix_append_right_inj]
        exact (List.dropLast_prefix separator).trans (List.prefix_append separator rest)
      have fits : separator.length ≤ (character :: (front ++ separator.dropLast)).length := by
        simp only [List.length_cons, List.length_append, List.length_dropLast]
        omega
      exact absurd (List.prefix_of_prefix_length_le begins shared fits) notHere

/-- A text in which the separator occurs is cut at the first occurrence: what stands before
it is cut off, and the separator neither occurs there nor begins there and ends inside the
occurrence. The induction goes character by character, as cutting does, and stops where the
separator is met. -/
theorem cut_first (separator text : List Char) (visible : separator ≠ [])
    (occurs : separator <:+: text) :
    ∃ before rest, cut separator text = (before, some rest) ∧
      text = before ++ (separator ++ rest) ∧ ¬ separator <:+: before ++ separator.dropLast := by
  have long : 0 < separator.length := List.length_pos_iff.mpr visible
  induction text with
  | nil => exact absurd (List.infix_nil.mp occurs) visible
  | cons character text inductionHypothesis =>
    cases found : separator.isPrefixOf? (character :: text) with
    | some after =>
      have here := List.isPrefixOf?_eq_some_iff_append_eq.mp found
      refine ⟨[], after, by simp only [cut, found], here.symm, ?_⟩
      intro again
      have fits := again.length_le
      rw [List.nil_append, List.length_dropLast] at fits
      omega
    | none =>
      have notHere : ¬ separator <+: character :: text := by
        rintro ⟨after, same⟩
        rw [List.isPrefixOf?_eq_some_iff_append_eq.mpr same] at found
        cases found
      have later := (List.infix_cons_iff.mp occurs).resolve_left notHere
      obtain ⟨before, rest, split, written, apart⟩ := inductionHypothesis later
      refine ⟨character :: before, rest, by simp only [cut, found, split], by rw [written]; rfl, ?_⟩
      rw [List.cons_append, List.infix_cons_iff]
      rintro (begins | within)
      · -- An occurrence at the front would be one in the text, which goes on the same way.
        have shared : character :: (before ++ separator.dropLast) <+: character :: text := by
          rw [List.prefix_cons_inj, written, List.prefix_append_right_inj]
          exact (List.dropLast_prefix separator).trans (List.prefix_append separator rest)
        exact notHere (begins.trans shared)
      · exact apart within

/-- No occurrence of the separator is before the one at which a text is cut. So any occurrence
bounds the length of what stands in front. -/
theorem length_cut_le (separator before after : List Char) (visible : separator ≠ []) :
    (cut separator (before ++ (separator ++ after))).1.length ≤ before.length := by
  induction before with
  | nil => simp [cut_at_once separator after visible]
  | cons character before inductionHypothesis =>
    rw [List.cons_append, cut]
    split
    · exact Nat.zero_le _
    · exact Nat.succ_le_succ inductionHypothesis

end Text

namespace Options

/-- The separator occurs before it is put behind the column: in the column, or from
within the column into what is put behind it. -/
def Overlaps (options : Options) (column : String) : Prop :=
  options.separator.toList <:+: column.toList ++ options.separator.toList.dropLast

instance (options : Options) (column : String) : Decidable (options.Overlaps column) :=
  inferInstanceAs (Decidable (_ <:+: _))

/-- The key of a column and the name of an operator. -/
def joinedKey (options : Options) (column name : String) : String :=
  column ++ options.separator ++ name

variable {options : Options} {column name : String}

/-- The characters of a joined key are those of the column, of the separator and of the name, in
this order. -/
theorem to_list_joined_key (options : Options) (column name : String) :
    (options.joinedKey column name).toList =
      column.toList ++ (options.separator.toList ++ name.toList) := by
  rw [joinedKey, String.toList_append, String.toList_append, List.append_assoc]

/-- What a key is cut into when there is a separator: what stands before the first one, and what
stands behind it up to the next. -/
theorem split_key_eq (separated : options.separator ≠ "") (key : String) :
    options.splitKey key =
      (String.ofList (Text.cut options.separator.toList key.toList).1,
        (Text.cut options.separator.toList key.toList).2.map fun rest =>
          String.ofList (Text.cut options.separator.toList rest).1) := by
  have spoken : options.separator.isEmpty = false :=
    Bool.eq_false_iff.mpr fun blank => separated (String.isEmpty_iff.mp blank)
  simp only [splitKey, spoken, Bool.false_eq_true, if_false]

/-- A key in which the separator does not occur before it is put between the parts is cut
into these parts. -/
theorem split_joined_key (separated : options.separator ≠ "") (apart : ¬ options.Overlaps column)
    (single : ¬ options.separator.toList <:+: name.toList) :
    options.splitKey (options.joinedKey column name) = (column, some name) := by
  have visible : options.separator.toList ≠ [] := mt String.toList_eq_nil_iff.mp separated
  rw [split_key_eq separated, to_list_joined_key, Text.cut_joined _ _ _ visible apart,
    Option.map_some, Text.cut_absent _ _ single, String.ofList_toList, String.ofList_toList]

/-- Where the key of a column is cut when the separator occurs before it is put behind the
column: in front of the first occurrence stands a proper beginning of the column. -/
structure CutWithin (options : Options) (column name before rest : String) : Prop where
  /-- The beginning is all that is taken for the column. -/
  taken : (options.splitKey (options.joinedKey column name)).1 = before
  /-- Behind it stands the separator. -/
  written : options.joinedKey column name = before ++ options.separator ++ rest
  /-- This is the first occurrence. -/
  first : ¬ options.Overlaps before
  begins : before.toList <+: column.toList
  proper : before.length < column.length

/-- A key in which the separator occurs too early is cut within the column. The occurrence
may end in the separator between the parts, but it begins in the column, and the first one
is not behind it. -/
theorem split_overlapping_key (separated : options.separator ≠ "")
    (overlaps : options.Overlaps column) :
    ∃ before rest, options.CutWithin column name before rest := by
  have visible : options.separator.toList ≠ [] := mt String.toList_eq_nil_iff.mp separated
  have long : 0 < options.separator.toList.length := List.length_pos_iff.mpr visible
  obtain ⟨early, after, same⟩ := overlaps
  -- The separator of which the occurrence takes a part is complete with its last character.
  obtain ⟨behind, whole⟩ : ∃ behind, column.toList ++ (options.separator.toList ++ name.toList) =
      early ++ (options.separator.toList ++ behind) := by
    refine ⟨after ++ ([options.separator.toList.getLast visible] ++ name.toList), ?_⟩
    calc column.toList ++ (options.separator.toList ++ name.toList)
        = column.toList ++ options.separator.toList.dropLast ++
            ([options.separator.toList.getLast visible] ++ name.toList) := by
          conv_lhs => rw [← List.dropLast_append_getLast visible]
          simp only [List.append_assoc]
      _ = _ := by rw [← same]; simp only [List.append_assoc]
  have occurs : options.separator.toList <:+:
      column.toList ++ (options.separator.toList ++ name.toList) :=
    ⟨early, behind, by rw [whole, List.append_assoc]⟩
  obtain ⟨before, rest, split, written, apart⟩ := Text.cut_first _ _ visible occurs
  have short : before.length < column.length := by
    have bound := Text.length_cut_le options.separator.toList early behind visible
    rw [← whole, split] at bound
    have amounts := congrArg List.length same
    simp only [List.length_append, List.length_dropLast, String.length_toList] at amounts long
    exact Nat.lt_of_le_of_lt bound (by omega)
  refine ⟨String.ofList before, String.ofList rest, ?taken, ?written, ?first, ?begins, ?proper⟩
  case taken => rw [split_key_eq separated, to_list_joined_key, split]
  case written =>
    rw [← String.toList_inj, to_list_joined_key, written, String.toList_append,
      String.toList_append, String.toList_ofList, String.toList_ofList, List.append_assoc]
  case first =>
    rw [Overlaps, String.toList_ofList]
    exact apart
  case begins =>
    rw [String.toList_ofList]
    have shared : before <+: column.toList ++ (options.separator.toList ++ name.toList) :=
      ⟨_, written.symm⟩
    refine List.prefix_of_prefix_length_le shared (List.prefix_append _ _) ?_
    rw [String.length_toList]
    exact Nat.le_of_lt short
  case proper =>
    rw [String.length_ofList]
    exact short

end Options

/-- A key that joins a column and the name of an operator compares this column by this
operator, whatever the column is called, unless the separator occurs before it is put
between them. Then the key is cut at the first occurrence, and what is read as the column is
what stands in front of it, a proper beginning of the column.

An occurrence that ends before the one between the parts is the only way to be cut earlier.
How the name of the operator begins cannot make one, for the separator there is complete
already. -/
theorem joined_key_compares (config : Config) (column name : String) (value : Value)
    (operator : Operator) (separated : config.separator ≠ "")
    (single : ¬ config.separator.toList <:+: name.toList)
    (found : (config.operators.resolve name).1 = some operator)
    (unhooked : config.hooks.get? (config.joinedKey column name) = none) (depth : Nat) :
    (¬ config.Overlaps column →
      Reduction.ofPair (reduce config depth) config (config.joinedKey column name, value) =
        some ⟨.leaf (operator.build (config.column column) value config.toOptions), none,
          (config.operators.resolve name).2⟩) ∧
      (config.Overlaps column → ∃ before rest, config.CutWithin column name before rest) := by
  refine ⟨fun apart => ?_, Options.split_overlapping_key separated⟩
  have parts := Options.split_joined_key separated apart single
  simp only [Reduction.ofPair, unhooked, Reduction.ofComparison, parts, Registry.select, found,
    Outcome.after, List.append_nil]

/-- A configuration with arrows in its keys and an operator whose name begins like the end
of one. -/
def arrowConfig : Config :=
  let options : Options := { Options.default with separator := "->", table := some "t" }
  { Config.default.withOptions options with
    operators := Registry.builtin.insert ">is" (.ofSymbol "IS") }

/-- An arrow separates a column that ends like one begins from an operator whose name begins
like one ends. The key is cut between them nonetheless. -/
theorem arrow_key_compares :
    (arrowConfig.separator ≠ "" ∧ ¬ arrowConfig.separator.toList <:+: ">is".toList ∧
      (arrowConfig.operators.resolve ">is").1 = some (.ofSymbol "IS") ∧
      arrowConfig.hooks.get? (arrowConfig.joinedKey "a-" ">is") = none ∧
      ¬ arrowConfig.Overlaps "a-") ∧
      Reduction.ofPair (reduce arrowConfig 0) arrowConfig ("a-->>is", .bool true) =
        some ⟨.leaf ⟨"\"t\".\"a-\" IS ?", [.bool true]⟩, none, []⟩ := by
  have apart : ¬ arrowConfig.Overlaps "a-" := by decide
  have compares := (joined_key_compares arrowConfig "a-" ">is" (.bool true) (.ofSymbol "IS")
    (by decide) (by decide) rfl rfl 0).1 apart
  exact ⟨⟨by decide, by decide, rfl, rfl, apart⟩, compares⟩

/-- A column that ends in an underscore is compared by no operator when two underscores
separate. Neither name contains the separator, the operator is registered and the key has
no hook, but the key is refused. -/
theorem trailing_underscore_lost :
    (Config.default.separator ≠ "" ∧ ¬ Config.default.separator.toList <:+: "a_".toList ∧
      ¬ Config.default.separator.toList <:+: "gte".toList ∧
      (Config.default.operators.resolve "gte").1 = some (.ofSymbol ">=") ∧
      Config.default.hooks.get? (Config.default.joinedKey "a_" "gte") = none) ∧
      (Operator.ofSymbol ">=").build (Config.default.column "a_") (.int 1)
          Config.default.toOptions = ⟨"\"a_\" >= ?", [.int 1]⟩ ∧
      Reduction.ofPair (reduce Config.default 0) Config.default
          (Config.default.joinedKey "a_" "gte", .int 1) =
        some ⟨.empty, none, [.skipped (.invalid (.text "a___gte") (some [.int 1]))]⟩ :=
  ⟨⟨by decide, by decide, by decide, rfl, rfl⟩, rfl, rfl⟩

end SqlCondition
