import SqlCondition.Binding.Bytes
import SqlCondition.Binding.ColumnType
import SqlCondition.Calendar.Reading
import SqlCondition.Value.Basic

/-!
# Binding values to columns

The bytes in which a value is sent for a column. Null has none. An integer is
narrowed to the column, or becomes a binary number or a text there; a text becomes
a date or a time in a column of those; dates, times and everything else are sent in
a form that does not depend on the column. Only an array column takes a list, and
an array has one dimension, so that the items of a list are not lists.
-/

namespace SqlCondition

/-- Why a value cannot be bound. -/
inductive BindIssue
  /-- A list was bound to a column of the named type. -/
  | listToScalar (typeName : String)
  | tooLarge
  | tooSmall
  /-- A text is no date or time. -/
  | unreadable (issue : Calendar.ReadIssue)
  deriving DecidableEq

/-- The wording of an issue. -/
def BindIssue.message : BindIssue → String
  | .listToScalar typeName => "cannot bind a list value to non-array type " ++ typeName
  | .tooLarge => "number too large to fit in target type"
  | .tooSmall => "number too small to fit in target type"
  | .unreadable issue => issue.message

namespace Binding

/-- An integer in a count of bytes, when it fits. -/
def narrow (count : Nat) (integer : Int) : Except BindIssue (List UInt8) :=
  if Bytes.span count ≤ 2 * integer then .error .tooLarge
  else if 2 * integer < -(Bytes.span count : Int) then .error .tooSmall
  else .ok (Bytes.ofInt count integer)

/-- An integer in a column. -/
def ofInt (type : ScalarType) (integer : Int) : Except BindIssue (List UInt8) :=
  match type with
  | .int2 => narrow 2 integer
  | .int4 => narrow 4 integer
  | .float4 =>
      let sign := if integer < 0 then BinaryFormat.single.signBit else 0
      .ok (Bytes.ofNat 4 (sign + BinaryFormat.single.nearest integer.natAbs 1))
  | .float8 => .ok (Bytes.ofNat 8 (Double.ofInt integer).bits.toNat)
  | .text | .varchar | .bpchar => .ok (Bytes.ofDecimal integer)
  | _ => .ok (Bytes.ofInt 8 integer)

/-- A binary number in a column. -/
def ofFloat (type : ScalarType) (number : Double) : List UInt8 :=
  if type = .float4 then Bytes.ofNat 4 number.toSingle.toNat else Bytes.ofNat 8 number.bits.toNat

/-- A date as days from the first day of 2000. -/
def ofDate (date : Date) : List UInt8 := Bytes.ofInt 4 date.dayNumber

/-- A time as microseconds from the start of 2000. -/
def ofDateTime (time : DateTime) : List UInt8 := Bytes.ofInt 8 time.microseconds

/-- A text as its bytes in UTF-8. -/
def ofPlainText (content : String) : List UInt8 :=
  content.toList.flatMap String.utf8EncodeChar

/-- A text in a column. -/
def ofText (type : ScalarType) (content : String) : Except BindIssue (List UInt8) :=
  match type with
  | .date => ((Calendar.readDate content.toList).map ofDate).mapError .unreadable
  | .timestamp => ((Calendar.readDateTime content.toList).map ofDateTime).mapError .unreadable
  | _ => .ok (ofPlainText content)

/-- The bytes of a value in a column that is no array; null has none. -/
def ofScalar (type : ScalarType) : Value → Except BindIssue (Option (List UInt8))
  | .null => .ok none
  | .bool truth => .ok (some [if truth then 1 else 0])
  | .int number => (ofInt type number.toInt).map some
  | .float number => .ok (some (ofFloat type number))
  | .text content => (ofText type content).map some
  | .bytes content => .ok (some content)
  | .date date => .ok (some (ofDate date))
  | .dateTime time => .ok (some (ofDateTime time))
  | .list _ => .error (.listToScalar type.name)

/-- The bytes of each item, unless one cannot be bound; the first such one counts. -/
def ofItems (type : ScalarType) : List Value → Except BindIssue (List (Option (List UInt8)))
  | [] => .ok []
  | item :: rest => do
      let first ← ofScalar type item
      let later ← ofItems type rest
      pure (first :: later)

/-- An item of an array: its length and its bytes, or a length of minus one for
null. -/
def framed : Option (List UInt8) → List UInt8
  | none => Bytes.ofInt 4 (-1)
  | some bytes => Bytes.ofNat 4 bytes.length ++ bytes

/-- An array: one dimension, whether some item is null, the number of the element
type, how many items there are, their first index, and the items. How many there are
is a signed number of four bytes, so what is sent is an array for at most 2147483647
items. The protocol's writer refuses longer ones; here the count is cut off to its four
bytes, and nothing is said of such arrays beyond that. -/
def ofArray (type : ScalarType) (firstIndex : Nat) (items : List (Option (List UInt8))) :
    List UInt8 :=
  Bytes.ofNat 4 1 ++ Bytes.ofNat 4 (if items.any Option.isNone then 1 else 0) ++
    Bytes.ofNat 4 type.number ++ Bytes.ofNat 4 items.length ++ Bytes.ofNat 4 firstIndex ++
    items.flatMap framed

/-- The bytes of a value in a column; null has none. -/
def encode (type : ColumnType) (value : Value) : Except BindIssue (Option (List UInt8)) :=
  match value, type with
  | .list items, .array _ element firstIndex =>
      (ofItems element items).map fun encoded => some (ofArray element firstIndex encoded)
  | other, _ => ofScalar type.asScalar other

end Binding

end SqlCondition
