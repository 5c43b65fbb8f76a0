import SqlCondition.Text.Classes

/-!
# Dialects and quoted identifiers

A dialect of SQL has a name, further names by which it is known, and a character
that encloses identifiers. A name with dots becomes several identifiers with dots
between; the enclosing character inside a name is doubled; nothing from the first
NUL on belongs to a name.
-/

namespace SqlCondition

/-- The dialects in which clauses are written. -/
inductive Dialect
  | postgres
  | mySql
  | sqlite
  deriving DecidableEq

namespace Dialect

/-- The name of a dialect. -/
def name : Dialect → String
  | .postgres => "postgres"
  | .mySql => "mysql"
  | .sqlite => "sqlite"

/-- The name of a dialect in messages. -/
def shown : Dialect → String
  | .postgres => "Postgres"
  | .mySql => "MySql"
  | .sqlite => "Sqlite"

/-- The dialect known by a name. -/
def ofName? (name : String) : Option Dialect :=
  if name = "postgres" ∨ name = "postgresql" ∨ name = "pg" then some .postgres
  else if name = "mysql" ∨ name = "mariadb" then some .mySql
  else if name = "sqlite" ∨ name = "sqlite3" then some .sqlite
  else none

/-- Why a text names no dialect. -/
inductive NameIssue
  /-- No dialect is known by the name. -/
  | unknown (name : String)

/-- The wording of an issue. -/
def NameIssue.message : NameIssue → String
  | .unknown name => "unknown dialect: " ++ name

/-- Read a dialect's name. Blanks at the ends and the case of ASCII letters do not
count. -/
def read (text : String) : Except NameIssue Dialect :=
  let name := String.ofList ((Text.trim text.toList).map Char.toLower)
  match ofName? name with
  | some dialect => .ok dialect
  | none => .error (.unknown name)

/-- The character that encloses identifiers. -/
def quoteMark : Dialect → Char
  | .postgres | .sqlite => '"'
  | .mySql => '\x60'

/-- The part of a name before its first NUL. -/
def visible (name : List Char) : List Char := name.takeWhile (· ≠ '\x00')

/-- A character of a name inside enclosing marks: the mark is doubled, and a dot
closes one identifier and opens the next. -/
def quotedCharacter (mark character : Char) : List Char :=
  if character = mark then [mark, mark]
  else if character = '.' then [mark, '.', mark]
  else [character]

/-- A name as one or more identifiers in enclosing marks. -/
def quoteChars (mark : Char) (name : List Char) : List Char :=
  mark :: (visible name).flatMap (quotedCharacter mark) ++ [mark]

/-- A name as one or more identifiers in the dialect's marks. -/
def quoteIdentifier (dialect : Dialect) (name : String) : String :=
  String.ofList (quoteChars dialect.quoteMark name.toList)

/-- The enclosing mark is never the dot, so the dot between two segments is told from both. -/
theorem quote_mark_ne_dot (dialect : Dialect) : dialect.quoteMark ≠ '.' := by
  cases dialect <;> decide

end Dialect

end SqlCondition
