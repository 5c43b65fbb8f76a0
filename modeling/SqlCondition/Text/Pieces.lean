import SqlCondition.Text.Classes

/-!
# Pieces of a text

Joining texts by a separator, cutting a text at the first occurrence of a
separator, and replacing every occurrence of a pattern. Occurrences are found
from the left and do not overlap. Separators and patterns are not empty. All three
work on lists of characters and recurse on the text.

Messages show data on one line, put together from such pieces: members of a list in
brackets, of a set in braces, arguments behind a name in parentheses, and named parts
of a record in braces behind its name. A text is shown between double quotes. The
quote itself, the backslash, line feed, carriage return, tab and NUL are escaped by a
backslash and one character; every other hidden character is written as its code
point in braces.
-/

namespace SqlCondition.Text

/-! ## Joining, cutting and replacing -/

/-- The texts one after another with the separator between neighbours. -/
def join (separator : String) : List String → String
  | [] => ""
  | [text] => text
  | text :: next :: rest => text ++ separator ++ join separator (next :: rest)

/-- Cut at the first occurrence of the separator: what stands before it, and what
follows it when it occurs at all. -/
def cut (separator : List Char) : List Char → List Char × Option (List Char)
  | [] => ([], none)
  | character :: rest =>
      match separator.isPrefixOf? (character :: rest) with
      | some after => ([], some after)
      | none =>
          let later := cut separator rest
          (character :: later.1, later.2)

/-- Replace the pattern from the left, passing over the next `skipped` characters,
which belong to an occurrence that was replaced already. -/
def replaceFrom (pattern replacement : List Char) : Nat → List Char → List Char
  | _, [] => []
  | skipped + 1, _ :: rest => replaceFrom pattern replacement skipped rest
  | 0, character :: rest =>
      if pattern.isPrefixOf (character :: rest) then
        replacement ++ replaceFrom pattern replacement (pattern.length - 1) rest
      else character :: replaceFrom pattern replacement 0 rest

/-- Replace every occurrence of the pattern. -/
def replace (text pattern replacement : String) : String :=
  String.ofList (replaceFrom pattern.toList replacement.toList 0 text.toList)

/-! ## Shown data -/

/-- The digits of a number in base sixteen, lower case. -/
def hexadecimal (number : Nat) : List Char := Nat.toDigits 16 number

/-- How one character is shown between quotes. -/
def shownCharacter (character : Char) : List Char :=
  if character = '\x00' then ['\\', '0']
  else if character = '\t' then ['\\', 't']
  else if character = '\n' then ['\\', 'n']
  else if character = '\r' then ['\\', 'r']
  else if character = '"' then ['\\', '"']
  else if character = '\\' then ['\\', '\\']
  else if isHidden character then
    ['\\', 'u', '\x7b'] ++ hexadecimal character.toNat ++ ['\x7d']
  else [character]

/-- A text between quotes. -/
def quoted (text : String) : String :=
  String.ofList ('"' :: text.toList.flatMap shownCharacter ++ ['"'])

/-- The shown form of a truth value. -/
def shownBool (truth : Bool) : String := if truth then "true" else "false"

/-- Members in brackets. -/
def bracketed (members : List String) : String := "[" ++ join ", " members ++ "]"

/-- Members in braces. -/
def braced (members : List String) : String := "\x7b" ++ join ", " members ++ "\x7d"

/-- An argument behind a name. -/
def called (name argument : String) : String := name ++ "(" ++ argument ++ ")"

/-- An argument that may be missing. -/
def optional : Option String → String
  | none => "None"
  | some argument => called "Some" argument

/-- A name and what stands under it. -/
def labelled (part : String × String) : String := part.1 ++ ": " ++ part.2

/-- Named parts behind the name of a record. -/
def record (name : String) (parts : List (String × String)) : String :=
  name ++ " \x7b " ++ join ", " (parts.map labelled) ++ " \x7d"

end SqlCondition.Text
