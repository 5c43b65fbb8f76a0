import SqlCondition.Json.Number

/-!
# Reading JSON text

The reader takes one value from the front of a text and gives back what follows.
Strings may hold any characters but unescaped control characters; an escaped
surrogate must be followed by its partner. The fuel of the recursion is twice the
length of the text, which suffices because every step takes a character away.
-/

namespace SqlCondition.Json

/-- What follows the white space at the front. -/
def skipSpace (text : List Char) : List Char :=
  text.dropWhile fun character =>
    character = ' ' || character = '\n' || character = '\r' || character = '\t'

/-- The value of a hexadecimal digit. -/
def hexDigit? (character : Char) : Option Nat :=
  if '0' ≤ character ∧ character ≤ '9' then some (character.toNat - '0'.toNat)
  else if 'a' ≤ character ∧ character ≤ 'f' then some (character.toNat - 'a'.toNat + 10)
  else if 'A' ≤ character ∧ character ≤ 'F' then some (character.toNat - 'A'.toNat + 10)
  else none

/-- The value of four hexadecimal digits. -/
def codeUnit? (first second third fourth : Char) : Option Nat := do
  let first ← hexDigit? first
  let second ← hexDigit? second
  let third ← hexDigit? third
  let fourth ← hexDigit? fourth
  pure (((first * 16 + second) * 16 + third) * 16 + fourth)

/-- The character that a single letter stands for behind a backslash. -/
def escaped? : Char → Option Char
  | '"' => some '"'
  | '\\' => some '\\'
  | '/' => some '/'
  | 'b' => some '\x08'
  | 'f' => some '\x0c'
  | 'n' => some '\n'
  | 'r' => some '\r'
  | 't' => some '\t'
  | _ => none

/-- The character of one code unit, unless it is a surrogate. -/
def plainUnit? (unit : Nat) : Option Char :=
  if 0xD800 ≤ unit ∧ unit ≤ 0xDFFF then none else some (Char.ofNat unit)

/-- The character of a pair of surrogates. -/
def surrogates? (high low : Nat) : Option Char :=
  if (0xD800 ≤ high ∧ high ≤ 0xDBFF) ∧ 0xDC00 ≤ low ∧ low ≤ 0xDFFF then
    some (Char.ofNat (0x10000 + (high - 0xD800) * 0x400 + (low - 0xDC00)))
  else none

/-- The characters of a string up to its closing quote, and what follows it. -/
def readString : List Char → Option (List Char × List Char)
  | [] => none
  | '"' :: rest => some ([], rest)
  | '\\' :: 'u' :: a :: b :: c :: d :: '\\' :: 'u' :: e :: f :: g :: h :: rest => do
      let unit ← codeUnit? a b c d
      match plainUnit? unit with
      | some character => do
          let later ← readString ('\\' :: 'u' :: e :: f :: g :: h :: rest)
          pure (character :: later.1, later.2)
      | none => do
          let character ← surrogates? unit (← codeUnit? e f g h)
          let later ← readString rest
          pure (character :: later.1, later.2)
  | '\\' :: 'u' :: a :: b :: c :: d :: rest => do
      let character ← plainUnit? (← codeUnit? a b c d)
      let later ← readString rest
      pure (character :: later.1, later.2)
  | '\\' :: mark :: rest => do
      let character ← escaped? mark
      let later ← readString rest
      pure (character :: later.1, later.2)
  | character :: rest =>
      if character.toNat < 0x20 then none
      else do
        let later ← readString rest
        pure (character :: later.1, later.2)

/-- A name and the colon behind it. -/
def readName (text : List Char) : Option (String × List Char) :=
  match skipSpace text with
  | '"' :: rest => do
      let (name, rest) ← readString rest
      match skipSpace rest with
      | ':' :: after => pure (String.ofList name, after)
      | _ => none
  | _ => none

mutual

/-- A value at the front of a text. -/
def readValue : Nat → List Char → Option (Json × List Char)
  | 0, _ => none
  | fuel + 1, text =>
      match skipSpace text with
      | '"' :: rest => (readString rest).map fun found => (.string (String.ofList found.1), found.2)
      | '[' :: rest =>
          match skipSpace rest with
          | ']' :: after => some (.array [], after)
          | items => (readItems fuel items).map fun found => (.array found.1, found.2)
      | '\x7b' :: rest =>
          match skipSpace rest with
          | '\x7d' :: after => some (.object [], after)
          | members => (readMembers fuel members).map fun found => (ofMembers found.1, found.2)
      | 'n' :: 'u' :: 'l' :: 'l' :: after => some (.null, after)
      | 't' :: 'r' :: 'u' :: 'e' :: after => some (.bool true, after)
      | 'f' :: 'a' :: 'l' :: 's' :: 'e' :: after => some (.bool false, after)
      | other => (JsonNumber.read other).map fun found => (.number found.1, found.2)

/-- Items up to the closing bracket. -/
def readItems : Nat → List Char → Option (List Json × List Char)
  | 0, _ => none
  | fuel + 1, text =>
      match readValue fuel text with
      | none => none
      | some (item, rest) =>
          match skipSpace rest with
          | ',' :: more => (readItems fuel more).map fun found => (item :: found.1, found.2)
          | ']' :: after => some ([item], after)
          | _ => none

/-- Members up to the closing brace. -/
def readMembers : Nat → List Char → Option (List (String × Json) × List Char)
  | 0, _ => none
  | fuel + 1, text =>
      match readName text with
      | none => none
      | some (name, rest) =>
          match readValue fuel rest with
          | none => none
          | some (value, rest) =>
              match skipSpace rest with
              | ',' :: more =>
                  (readMembers fuel more).map fun found => ((name, value) :: found.1, found.2)
              | '\x7d' :: after => some ([(name, value)], after)
              | _ => none

end

/-- The value that a whole text is. -/
def read (text : String) : Option Json :=
  match readValue (2 * text.length + 2) text.toList with
  | some (value, rest) => if (skipSpace rest).isEmpty then some value else none
  | none => none

end SqlCondition.Json
