import SqlCondition.Binding.Encoding

/-!
# Reading bound integers

What is sent for a column, read the way the column's type has it. An integer column has two,
four or eight bytes in two's complement, a text column the decimal digits. An array is one
message: a head that tells its dimension, whether an item is null, the number of the element
type, how many items there are and their first index, and behind it the items up to the end,
each behind its length. The head has four bytes for how many there are, and they are compared
as far as four bytes can tell.
-/

namespace SqlCondition

namespace Bytes

/-- So many bytes at the front, when there are, and what follows. -/
def front? (count : Nat) (bytes : List UInt8) : Option (List UInt8 × List UInt8) :=
  if count ≤ bytes.length then some (bytes.take count, bytes.drop count) else none

/-- What stands in front is taken, and the rest is left as it is. -/
theorem front_append (front rest : List UInt8) :
    front? front.length (front ++ rest) = some (front, rest) := by
  simp [front?]

/-- A number in so many bytes is taken, with nothing of what follows. -/
theorem front_of_nat (count number : Nat) (rest : List UInt8) :
    front? count (ofNat count number ++ rest) = some (ofNat count number, rest) := by
  have taken := front_append (ofNat count number) rest
  rwa [length_of_nat] at taken

/-- Taking some bytes leaves as many fewer. -/
theorem length_of_front {count : Nat} {bytes front rest : List UInt8}
    (taken : front? count bytes = some (front, rest)) : rest.length + count = bytes.length := by
  unfold front? at taken
  split at taken
  · rename_i enough
    cases taken
    rw [List.length_drop]
    omega
  · cases taken

end Bytes

namespace Binding

open Bytes

/-- The integer that the bytes denote in a column. -/
def readInteger (type : ScalarType) (bytes : List UInt8) : Option Int :=
  match type with
  | .int2 => if bytes.length = 2 then some (toInt bytes) else none
  | .int4 => if bytes.length = 4 then some (toInt bytes) else none
  | .int8 => if bytes.length = 8 then some (toInt bytes) else none
  | .text | .varchar | .bpchar =>
      Text.signedNumber? (bytes.map fun byte => Char.ofNat byte.toNat)
  | _ => none

/-- An item at the front of an array's items: a length of minus one is null. -/
def readItem (bytes : List UInt8) : Option (Option (List UInt8) × List UInt8) :=
  match front? 4 bytes with
  | none => none
  | some (size, rest) =>
      if toInt size = -1 then some (none, rest)
      else if toInt size < 0 then none
      else (front? (toInt size).toNat rest).map fun (content, others) => (some content, others)

/-- Reading an item leaves fewer bytes, as its length alone takes four. So reading items ends. -/
theorem length_of_read_item {bytes rest : List UInt8} {item : Option (List UInt8)}
    (read : readItem bytes = some (item, rest)) : rest.length < bytes.length := by
  unfold readItem at read
  split at read
  · cases read
  · rename_i size others taken
    have shorter := length_of_front taken
    split at read
    · cases read
      omega
    · split at read
      · cases read
      · obtain ⟨⟨content, later⟩, more, same⟩ := Option.map_eq_some_iff.mp read
        have shorterToo := length_of_front more
        cases same
        omega

/-- Items one behind the other up to the end. -/
def readItems (bytes : List UInt8) : Option (List (Option (List UInt8))) :=
  match bytes with
  | [] => some []
  | byte :: rest =>
      match _ : readItem (byte :: rest) with
      | none => none
      | some (item, others) => (readItems others).map (item :: ·)
termination_by bytes.length
decreasing_by exact length_of_read_item ‹_›

/-- What an array says of itself, and its items. -/
structure ArrayReading where
  hasNull : Bool
  /-- The number of the element type. -/
  element : Nat
  firstIndex : Nat
  items : List (Option (List UInt8))

/-- An array of one dimension. The number of items in its head is compared with the
items that follow as far as its four bytes tell, which is all of it for the arrays that
may be sent: those of at most 2147483647 items. -/
def readArray (bytes : List UInt8) : Option ArrayReading := do
  let (dimensions, bytes) ← front? 4 bytes
  let (flag, bytes) ← front? 4 bytes
  let (element, bytes) ← front? 4 bytes
  let (amount, bytes) ← front? 4 bytes
  let (firstIndex, bytes) ← front? 4 bytes
  let items ← readItems bytes
  if toNat dimensions = 1 ∧ toNat flag ≤ 1 ∧ toNat amount = items.length % span 4 then
    some ⟨toNat flag = 1, toNat element, toNat firstIndex, items⟩
  else none

/-- An item as a value of an integer type. -/
def readValue (type : ScalarType) : Option (List UInt8) → Option Value
  | none => some .null
  | some bytes => (readInteger type bytes).bind Value.ofInt?

/-- An array of integers: whether it says that an item is null, and the values. -/
def readIntegers (type : ScalarType) (bytes : List UInt8) : Option (Bool × List Value) := do
  let reading ← readArray bytes
  let values ← reading.items.mapM (readValue type)
  if reading.element = type.number then some (reading.hasNull, values) else none

end Binding

end SqlCondition
