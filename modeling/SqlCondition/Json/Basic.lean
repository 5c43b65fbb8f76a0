import SqlCondition.Decimal.Style
import SqlCondition.Text.Digits
import SqlCondition.Text.Pieces

/-!
# JSON data and its compact text

JSON values with objects whose members stand in ascending order of their names. A
number is either an integer written without point and exponent, or a binary
number.

Compact text has no white space. In strings the double quote, the backslash and the
control characters below the space are escaped, the common ones by a letter;
everything else stands for itself.
-/

namespace SqlCondition

/-- A JSON number. -/
inductive JsonNumber
  | whole (integer : Int)
  | real (number : Double)

/-- A JSON value. -/
inductive Json
  | null
  | bool (truth : Bool)
  | number (number : JsonNumber)
  | string (content : String)
  | array (items : List Json)
  | object (members : List (String × Json))
  deriving Inhabited

namespace Json

/-- Put a member among members in ascending order; an earlier one of its name is
replaced. -/
def insertMember (name : String) (value : Json) : List (String × Json) → List (String × Json)
  | [] => [(name, value)]
  | (other, old) :: rest =>
      if other = name then (name, value) :: rest
      else if name < other then (name, value) :: (other, old) :: rest
      else (other, old) :: insertMember name value rest

/-- The object of members as they are written; the last member of a name counts. -/
def ofMembers (members : List (String × Json)) : Json :=
  .object (members.foldl (fun sorted member => insertMember member.1 member.2 sorted) [])

/-- The value of a member, if there is one. -/
def member? (name : String) : Json → Option Json
  | .object members => members.lookup name
  | _ => none

/-! ## Compact text -/

/-- A character inside a string. -/
def writtenCharacter (character : Char) : List Char :=
  if character = '"' then ['\\', '"']
  else if character = '\\' then ['\\', '\\']
  else if character = '\x08' then ['\\', 'b']
  else if character = '\t' then ['\\', 't']
  else if character = '\n' then ['\\', 'n']
  else if character = '\x0c' then ['\\', 'f']
  else if character = '\r' then ['\\', 'r']
  else if character.toNat < 0x20 then
    ['\\', 'u', '0', '0'] ++
      List.replicate (2 - (Text.hexadecimal character.toNat).length) '0' ++
      Text.hexadecimal character.toNat
  else [character]

/-- A string. -/
def writtenString (content : String) : String :=
  String.ofList ('"' :: content.toList.flatMap writtenCharacter ++ ['"'])

/-- A number. -/
def writtenNumber : JsonNumber → String
  | .whole integer => String.ofList (Text.signedDecimal integer)
  | .real amount => amount.write .json

mutual

/-- A value as compact text. -/
def compact : Json → String
  | .null => "null"
  | .bool truth => Text.shownBool truth
  | .number amount => writtenNumber amount
  | .string content => writtenString content
  | .array items => "[" ++ Text.join "," (compactItems items) ++ "]"
  | .object members => "\x7b" ++ Text.join "," (compactMembers members) ++ "\x7d"

/-- Several values as compact texts. -/
def compactItems : List Json → List String
  | [] => []
  | item :: rest => item.compact :: compactItems rest

/-- Several members as compact texts. -/
def compactMembers : List (String × Json) → List String
  | [] => []
  | (name, value) :: rest => (writtenString name ++ ":" ++ value.compact) :: compactMembers rest

end

end Json

end SqlCondition
