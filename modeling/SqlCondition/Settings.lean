import SqlCondition.Config
import SqlCondition.Json.Basic

/-!
# Settings

The part of a configuration that is plain data, as it stands in a settings file.
Settings are read from a JSON object, where missing fields have their usual values
and unknown ones are ignored, or from an array of at most five items, which fills
the fields in order. Only the separator and the table may be null.
-/

namespace SqlCondition

/-- The plain data of a configuration. -/
structure Settings where
  separator : Option String
  dialect : Dialect
  strict : Bool
  table : Option String
  aliases : Table String

namespace Settings

/-- The usual settings. -/
def default : Settings := ⟨none, .postgres, false, none, .empty⟩

/-- The configuration with the settings. Empty separators and tables do not
count. -/
def config (settings : Settings) : Config :=
  let options := { Options.default with dialect := settings.dialect, strict := settings.strict }
  let separated := (settings.separator.map options.withSeparator).getD options
  Config.default.withOptions
    { separated with
      table := settings.table.filter fun table => !table.isEmpty
      aliases := settings.aliases }

/-- A text or null. -/
def readOptionalText : Json → Option (Option String)
  | .null => some none
  | .string content => some (some content)
  | _ => none

/-- A truth value. -/
def readBool : Json → Option Bool
  | .bool truth => some truth
  | _ => none

/-- A dialect: its name, or an object with its name as the only member, which is
null. -/
def readDialect : Json → Option Dialect
  | .string name => Dialect.ofName? name
  | .object [(name, .null)] => Dialect.ofName? name
  | _ => none

/-- The texts of members that all are texts. -/
def readTexts : List (String × Json) → Option (List (String × String))
  | [] => some []
  | (name, .string content) :: rest => (readTexts rest).map ((name, content) :: ·)
  | _ => none

/-- A table of aliases: an object of texts. -/
def readAliases : Json → Option (Table String)
  | .object members => (readTexts members).map Table.ofList
  | _ => none

/-- What is read from a field, or the usual value when the field is missing. -/
def field {α : Type} (usual : α) (readField : Json → Option α) : Option Json → Option α
  | none => some usual
  | some json => readField json

/-- Settings from their five fields, each of which may be missing. -/
def ofFields (separator dialect strict table aliases : Option Json) : Option Settings := do
  let separator ← field default.separator readOptionalText separator
  let dialect ← field default.dialect readDialect dialect
  let strict ← field default.strict readBool strict
  let table ← field default.table readOptionalText table
  let aliases ← field default.aliases readAliases aliases
  pure ⟨separator, dialect, strict, table, aliases⟩

/-- Settings from JSON data. -/
def ofJson : Json → Option Settings
  | .object members =>
      ofFields (members.lookup "separator") (members.lookup "dialect") (members.lookup "strict")
        (members.lookup "table") (members.lookup "column_aliases")
  | .array items =>
      if 5 < items.length then none
      else ofFields items[0]? items[1]? items[2]? items[3]? items[4]?
  | _ => none

end Settings

end SqlCondition
