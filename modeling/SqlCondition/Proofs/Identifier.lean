import SqlCondition.Options

/-!
# Quoted identifiers are read in one way

A quoted identifier is a row of segments with single dots between. Every segment
stands in enclosing marks, and a mark inside it is doubled. `Identifier` says which
text is read as which segments, without any regard to how a text is written.

No text is read in two ways, because a mark that closes a segment is followed by a
dot or by nothing, and one that belongs to the segment is followed by a mark. What
is written for a name is read as the parts of the name between its dots, whatever
characters they have. So the name of a column cannot break out of its marks.
-/

namespace SqlCondition

/-- What stands between the marks of a segment, and the segment that is read: a
doubled mark is read as one, and any other character as itself. -/
inductive Segment (mark : Char) : List Char → List Char → Prop
  | nil : Segment mark [] []
  | doubled {body segment : List Char} (rest : Segment mark body segment) :
      Segment mark (mark :: mark :: body) (mark :: segment)
  | plain {character : Char} {body segment : List Char} (other : character ≠ mark)
      (rest : Segment mark body segment) :
      Segment mark (character :: body) (character :: segment)

/-- A text that is a quoted identifier, and the segments that are read: one in its
marks, or one in its marks with a dot and a quoted identifier behind it. -/
inductive Identifier (mark : Char) : List Char → List (List Char) → Prop
  | last {body segment : List Char} (only : Segment mark body segment) :
      Identifier mark (mark :: (body ++ [mark])) [segment]
  | dotted {body segment rest : List Char} {segments : List (List Char)}
      (first : Segment mark body segment) (others : Identifier mark rest segments) :
      Identifier mark (mark :: (body ++ mark :: '.' :: rest)) (segment :: segments)

variable {mark : Char}

/-- Where two segments are read from the same text, each up to a mark that no other
mark follows, they are the same and the same text follows. -/
theorem Segment.ends_alike {body other segment second tail after : List Char}
    (one : Segment mark body segment) (two : Segment mark other second)
    (tailEnds : tail.head? ≠ some mark) (afterEnds : after.head? ≠ some mark)
    (same : body ++ mark :: tail = other ++ mark :: after) : segment = second ∧ tail = after := by
  induction one generalizing other second with
  | nil =>
    cases two with
    | nil => exact ⟨rfl, (List.cons.inj same).2⟩
    | doubled _ => exact absurd (congrArg List.head? (List.cons.inj same).2) tailEnds
    | plain different _ => exact absurd (List.cons.inj same).1.symm different
  | doubled _ inductionHypothesis =>
    cases two with
    | nil => exact absurd (congrArg List.head? (List.cons.inj same).2.symm) afterEnds
    | doubled rest =>
      have behind := (List.cons.inj (List.cons.inj same).2).2
      obtain ⟨read, follows⟩ := inductionHypothesis rest behind
      exact ⟨congrArg (mark :: ·) read, follows⟩
    | plain different _ => exact absurd (List.cons.inj same).1.symm different
  | @plain character _ _ different _ inductionHypothesis =>
    cases two with
    | nil => exact absurd (List.cons.inj same).1 different
    | doubled _ => exact absurd (List.cons.inj same).1 different
    | plain _ rest =>
      obtain ⟨first, behind⟩ := List.cons.inj same
      obtain ⟨read, follows⟩ := inductionHypothesis rest behind
      exact ⟨first ▸ congrArg (character :: ·) read, follows⟩

namespace Identifier

/-- No text is read in two ways, as long as the mark is not the dot. Both readings begin with a
segment that ends at the same place, and the rest is shorter. -/
theorem unique {text : List Char} {segments others : List (List Char)} (notDot : mark ≠ '.')
    (one : Identifier mark text segments) (two : Identifier mark text others) :
    segments = others := by
  have dotEnds (rest : List Char) : ('.' :: rest).head? ≠ some mark := fun same =>
    notDot (Option.some.inj same).symm
  have nothingEnds : ([] : List Char).head? ≠ some mark := nofun
  generalize written : text = again at two
  induction one generalizing others again with
  | last only =>
    cases two with
    | last other =>
      obtain ⟨read, _⟩ := only.ends_alike other nothingEnds nothingEnds (List.cons.inj written).2
      rw [read]
    | dotted other _ =>
      obtain ⟨_, follows⟩ := only.ends_alike other nothingEnds (dotEnds _) (List.cons.inj written).2
      cases follows
  | dotted first _ inductionHypothesis =>
    cases two with
    | last other =>
      obtain ⟨_, follows⟩ := first.ends_alike other (dotEnds _) nothingEnds (List.cons.inj written).2
      cases follows
    | dotted other rest =>
      obtain ⟨read, follows⟩ := first.ends_alike other (dotEnds _) (dotEnds _) (List.cons.inj written).2
      rw [read, inductionHypothesis _ (List.cons.inj follows).2 rest]

/-- A text that is read as some segments is read as these and no others. Uniqueness gives
the step from a second reading to the first, and the first reading is its own witness. -/
theorem read_iff {text : List Char} {segments : List (List Char)} (notDot : mark ≠ '.')
    (read : Identifier mark text segments) (others : List (List Char)) :
    Identifier mark text others ↔ others = segments := by
  constructor
  · intro again
    exact again.unique notDot read
  · rintro rfl
    exact read

/-- Text in front of the first segment is read as part of it, when it may stand in
front of any segment. -/
theorem prepend {front tail : List Char} {character : Char} {segments : List (List Char)}
    (read : ∀ body segment, Segment mark body segment →
      Segment mark (front ++ body) (character :: segment))
    (identifier : Identifier mark (mark :: tail) segments) :
    Identifier mark (mark :: (front ++ tail)) (segments.modifyHead (character :: ·)) := by
  cases identifier with
  | last only =>
    rw [← List.append_assoc]
    exact .last (read _ _ only)
  | dotted first others =>
    rw [← List.append_assoc]
    exact .dotted (read _ _ first) others

/-- Two identifiers with a dot between them are one, with the segments of the first in front of
those of the second. -/
theorem append {front back : List Char} {segments others : List (List Char)}
    (first : Identifier mark front segments) (second : Identifier mark back others) :
    Identifier mark (front ++ '.' :: back) (segments ++ others) := by
  induction first with
  | last only => simpa using Identifier.dotted only second
  | dotted own _ inductionHypothesis => simpa using Identifier.dotted own inductionHypothesis

end Identifier

namespace Dialect

/-- What is written for characters in enclosing marks is read as their parts between dots. One
character more in front starts a segment, when it is a dot, or goes on with the first one. -/
theorem identifier_of_characters (notDot : mark ≠ '.') (characters : List Char) :
    Identifier mark (mark :: (characters.flatMap (quotedCharacter mark) ++ [mark]))
      (characters.splitOn '.') := by
  induction characters with
  | nil => exact .last .nil
  | cons character rest inductionHypothesis =>
    rw [List.flatMap_cons, List.append_assoc, List.splitOn, List.splitOnP_cons_eq_if_modifyHead]
    by_cases dot : character = '.'
    · subst dot
      have written : quotedCharacter mark '.' = [mark, '.', mark] := by
        rw [quotedCharacter, if_neg notDot.symm, if_pos rfl]
      rw [written, if_pos (beq_self_eq_true '.')]
      exact .dotted .nil inductionHypothesis
    · rw [if_neg (by simpa using dot)]
      refine Identifier.prepend ?_ inductionHypothesis
      intro body segment read
      by_cases enclosing : character = mark
      · rw [quotedCharacter, if_pos enclosing, enclosing]
        exact .doubled read
      · rw [quotedCharacter, if_neg enclosing, if_neg dot]
        exact .plain enclosing read

/-- A quoted name is read as the parts between dots of what stands before its first NUL,
whatever characters these are. -/
theorem identifier_of_name (dialect : Dialect) (name : String) :
    Identifier dialect.quoteMark (dialect.quoteIdentifier name).toList
      ((visible name.toList).splitOn '.') := by
  rw [quoteIdentifier, String.toList_ofList]
  exact identifier_of_characters dialect.quote_mark_ne_dot (visible name.toList)

/-- A quoted name has a dot when the name has one before its first NUL. The marks are no dots,
so no dot is made by quoting. -/
theorem dot_mem_quote_identifier (dialect : Dialect) (name : String) :
    '.' ∈ (dialect.quoteIdentifier name).toList ↔ '.' ∈ visible name.toList := by
  have notDot : '.' ≠ dialect.quoteMark := dialect.quote_mark_ne_dot.symm
  have own (character : Char) :
      '.' ∈ quotedCharacter dialect.quoteMark character ↔ character = '.' := by
    unfold quotedCharacter
    split
    · rename_i enclosing
      simp [enclosing, notDot, notDot.symm]
    · split
      · rename_i dot
        simp [dot]
      · rename_i different
        simp [Ne.symm different, different]
  simp [quoteIdentifier, quoteChars, notDot, own]

end Dialect

namespace Options

/-- The name under which a column is written, up to the first NUL: its alias, or the
name itself when it has none. -/
def target (options : Options) (name : String) : List Char :=
  ((options.aliases.get? name).getD name).toList.takeWhile (· ≠ '\x00')

/-- The segments in front of a column's own: those of the table, up to its first NUL,
when there is one with a name and the column has no dot of its own. -/
def qualifier (options : Options) (own : List Char) : List (List Char) :=
  match options.table with
  | none => []
  | some table =>
      if table = "" ∨ '.' ∈ own then [] else (table.toList.takeWhile (· ≠ '\x00')).splitOn '.'

/-- The name of a column is a quoted identifier, with its own segments behind those of the table
where one stands in front. Two identifiers with a dot between are one. -/
theorem identifier_of_column (options : Options) (name : String) :
    Identifier options.dialect.quoteMark (options.column name).toList
      (options.qualifier (options.target name) ++ (options.target name).splitOn '.') := by
  have own : Identifier options.dialect.quoteMark
      (options.dialect.quoteIdentifier ((options.aliases.get? name).getD name)).toList
      ((options.target name).splitOn '.') := options.dialect.identifier_of_name _
  -- The dot is looked for in the quoted name, where it stands just when the name has one.
  have dotted : '.' ∈ (options.dialect.quoteIdentifier
      ((options.aliases.get? name).getD name)).toList ↔ '.' ∈ options.target name :=
    options.dialect.dot_mem_quote_identifier _
  unfold qualifier Options.column
  cases options.table with
  | none => exact own
  | some table =>
    dsimp only
    by_cases plain : table = "" ∨ '.' ∈ options.target name
    · rw [if_pos plain, if_pos (by simpa [dotted] using plain)]
      exact own
    · rw [if_neg plain, if_neg (by simpa [dotted] using plain), String.toList_append,
        String.toList_append, List.append_assoc]
      exact (options.dialect.identifier_of_name table).append own

/-- The name of a column is a quoted identifier of the dialect, and all that it can be read as
are the segments of its table, where one stands in front, and the parts between dots of its
alias or name. Marks, dots, empty parts and NULs in any of these names cannot change that.

The name is written segment by segment, with every mark doubled. Reading one segment, a doubled
mark goes on and a single one ends it, so no other segments can be read. -/
theorem column_read_iff (options : Options) (name : String) (segments : List (List Char)) :
    Identifier options.dialect.quoteMark (options.column name).toList segments ↔
      segments = options.qualifier (options.target name) ++ (options.target name).splitOn '.' := by
  have read := options.identifier_of_column name
  exact read.read_iff options.dialect.quote_mark_ne_dot segments

/-- Three segments, of which the first ends with a mark and the second is one. -/
example : Options.default.column "a\".\".b\x00.c" = "\"a\"\"\".\"\"\"\".\"b\"" := by decide

end Options

end SqlCondition
