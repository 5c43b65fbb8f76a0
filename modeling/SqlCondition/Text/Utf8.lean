/-!
# Reading bytes as UTF-8

Every sequence of bytes is read. A well-formed sequence becomes its character. Of
a malformed one, each longest start of some well-formed sequence, or else its
single first byte, becomes one replacement character.

The reader walks over the bytes once. Between two bytes it knows the character
begun so far: the bits read, how many bytes are missing, and the range in which
the next byte must lie.
-/

namespace SqlCondition.Text.Utf8

/-- The character that stands for malformed bytes. -/
def replacement : Char := Char.ofNat 0xFFFD

/-- A character of which some bytes are missing. -/
structure Begun where
  bits : Nat
  missing : Nat
  low : Nat
  high : Nat

/-- What the first byte of a character tells. -/
inductive Start
  /-- The byte is a character by itself. -/
  | whole (character : Char)
  /-- More bytes belong to the character. -/
  | begun (state : Begun)
  /-- No character starts with the byte. -/
  | malformed

/-- Classify a first byte. The range of the second byte excludes overlong forms,
surrogates and code points beyond the last plane. -/
def start (byte : Nat) : Start :=
  if byte < 0x80 then .whole (Char.ofNat byte)
  else if byte < 0xC2 then .malformed
  else if byte < 0xE0 then .begun ⟨byte - 0xC0, 1, 0x80, 0xBF⟩
  else if byte < 0xF0 then
    .begun ⟨byte - 0xE0, 2, if byte = 0xE0 then 0xA0 else 0x80, if byte = 0xED then 0x9F else 0xBF⟩
  else if byte < 0xF5 then
    .begun ⟨byte - 0xF0, 3, if byte = 0xF0 then 0x90 else 0x80, if byte = 0xF4 then 0x8F else 0xBF⟩
  else .malformed

/-- The bits of a begun character after one more byte. -/
def Begun.extend (state : Begun) (byte : Nat) : Nat := state.bits * 64 + (byte - 0x80)

/-- Read bytes after a character that may have been begun. -/
def read : Option Begun → List UInt8 → List Char
  | none, [] => []
  | some _, [] => [replacement]
  | none, byte :: rest =>
      match start byte.toNat with
      | .whole character => character :: read none rest
      | .begun state => read (some state) rest
      | .malformed => replacement :: read none rest
  | some state, byte :: rest =>
      if state.low ≤ byte.toNat ∧ byte.toNat ≤ state.high then
        if state.missing = 1 then Char.ofNat (state.extend byte.toNat) :: read none rest
        else read (some ⟨state.extend byte.toNat, state.missing - 1, 0x80, 0xBF⟩) rest
      else
        match start byte.toNat with
        | .whole character => replacement :: character :: read none rest
        | .begun next => replacement :: read (some next) rest
        | .malformed => replacement :: replacement :: read none rest

/-- The text of a sequence of bytes. -/
def decode (bytes : List UInt8) : String := String.ofList (read none bytes)

end SqlCondition.Text.Utf8
