import SqlCondition.Dialect
import SqlCondition.Table
import SqlCondition.Text.Pieces

/-!
# Options and column names

The plain data that steer how conditions are written, and the name under which a
column appears in a clause: an alias is followed once, the result is quoted, and
the table's name stands in front unless the quoted name has a dot already.
-/

namespace SqlCondition

/-- How conditions are read and written. -/
structure Options where
  /-- What stands between column and operator in a key. -/
  separator : String
  dialect : Dialect
  /-- Whether a refused condition is an error instead of being left out. -/
  strict : Bool
  table : Option String
  aliases : Table String
  /-- Whether the keys of a mapping are taken in ascending order. -/
  sortKeys : Bool

/-- How an alias table is combined with the one in force. -/
inductive AliasMode
  /-- The new table replaces the old one. -/
  | overwrite
  /-- Old aliases win. -/
  | append
  /-- New aliases win. -/
  | write

namespace Options

/-- The usual separator of column and operator. -/
def defaultSeparator : String := "__"

/-- The usual options. -/
def default : Options := ⟨defaultSeparator, .postgres, false, none, .empty, false⟩

/-- The options with another separator; an empty one is ignored. -/
def withSeparator (options : Options) (separator : String) : Options :=
  if separator.isEmpty then options else { options with separator := separator }

/-- The options with one more alias. -/
def withAlias (options : Options) (column target : String) : Options :=
  { options with aliases := options.aliases.insert column target }

/-- The alias table in force after another one was given. -/
def combineAliases (mode : AliasMode) (old new : Table String) : Table String :=
  match mode with
  | .overwrite => new
  | .append => old.unionNew new
  | .write => old.union new

/-- The options after an alias table was given. -/
def setAliases (options : Options) (aliases : Table String) (mode : AliasMode) : Options :=
  { options with aliases := combineAliases mode options.aliases aliases }

/-- The quoted name of a column. -/
def column (options : Options) (name : String) : String :=
  let quoted := options.dialect.quoteIdentifier ((options.aliases.get? name).getD name)
  match options.table with
  | none => quoted
  | some table =>
      if table.isEmpty || quoted.toList.contains '.' then quoted
      else options.dialect.quoteIdentifier table ++ "." ++ quoted

/-- The parts of a mapping key: the column before the first separator, and the
operator between it and the next one. Without a separator the key is a column. -/
def splitKey (options : Options) (key : String) : String × Option String :=
  if options.separator.isEmpty then (key, none)
  else
    let separator := options.separator.toList
    let parts := Text.cut separator key.toList
    (String.ofList parts.1, parts.2.map fun rest => String.ofList (Text.cut separator rest).1)

end Options

end SqlCondition
