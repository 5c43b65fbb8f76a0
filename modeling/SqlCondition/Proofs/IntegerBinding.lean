import Mathlib.Data.List.Forall2
import SqlCondition.Binding.Decoding

/-!
# Integers are bound without loss

An integer is sent for an integer column when it fits there, and refused otherwise; a text
column takes all of them. What is sent denotes the same integer. An array column sends a list
of integers and null when every integer fits the element type, and no member is a list. The
items of the array are then the members in order, and the array says that an item is null
when one is.
-/

namespace SqlCondition

open Binding

namespace Text

/-- Each character of a number in decimal digits is a digit or a minus, and so fits a byte. -/
theorem small_of_mem_signed_decimal {integer : Int} {character : Char}
    (inside : character ∈ signedDecimal integer) : character.toNat < 256 := by
  have small (digits : character ∈ decimal integer.natAbs) : character.toNat < 256 := by
    have digit := Nat.isDigit_of_mem_toDigits (by decide) (by decide) digits
    have bound : character.toNat ≤ 57 := (Char.isDigit_iff_toNat.mp digit).2
    omega
  unfold signedDecimal at inside
  split at inside
  · rcases List.mem_cons.mp inside with rfl | digits
    · decide
    · exact small digits
  · exact small inside

end Text

namespace Bytes

/-- The characters of a number in decimal digits are found again in its bytes. Digits and the
minus sign are below 128, where a character is its byte. -/
theorem characters_of_decimal (integer : Int) :
    (ofDecimal integer).map (fun byte => Char.ofNat byte.toNat) = Text.signedDecimal integer := by
  rw [ofDecimal, List.map_map]
  refine (List.map_congr_left fun character inside => ?_).trans (List.map_id _)
  have small := Text.small_of_mem_signed_decimal inside
  rw [Function.comp_apply, UInt8.toNat_ofNat', Nat.mod_eq_of_lt small, Char.ofNat_toNat]
  rfl

end Bytes

namespace Value

/-- An integer of 64 bits is within their range, so reading it as a value gives it back. -/
theorem of_int_to_int (number : Int64) : ofInt? number.toInt = some (.int number) := by
  have low : Int64.minValue.toInt ≤ number.toInt := Int64.minValue_le_toInt number
  have high : number.toInt ≤ Int64.maxValue.toInt := Int64.toInt_le number
  rw [ofInt?, if_pos ⟨low, high⟩, Int64.ofInt_toInt]

end Value

namespace Binding

/-- What is made of a result is there exactly when the result is, and is made of that result. -/
theorem map_ok_iff {α β : Type} {attempt : Except BindIssue α} {make : α → β} {made : β} :
    attempt.map make = .ok made ↔ ∃ result, attempt = .ok result ∧ make result = made := by
  cases attempt with
  | error issue =>
    constructor
    · rintro ⟨⟩
    · rintro ⟨_, ⟨⟩, _⟩
  | ok result =>
    constructor
    · intro same
      exact ⟨result, rfl, Except.ok.inj same⟩
    · rintro ⟨_, ⟨⟩, rfl⟩
      rfl

/-- There is something to be made of a result exactly when there is a result, whatever is made
of it. -/
theorem exists_map_ok_iff {α β : Type} {attempt : Except BindIssue α} {make : α → β} :
    (∃ made, attempt.map make = .ok made) ↔ ∃ result, attempt = .ok result := by
  constructor
  · rintro ⟨made, some⟩
    obtain ⟨result, found, _⟩ := map_ok_iff.mp some
    exact ⟨result, found⟩
  · rintro ⟨result, found⟩
    exact ⟨make result, map_ok_iff.mpr ⟨result, found, rfl⟩⟩

/-- The integers that a column can hold. -/
def Fits (type : ScalarType) (integer : Int) : Prop :=
  match type with
  | .int2 => -32768 ≤ integer ∧ integer ≤ 32767
  | .int4 => -2147483648 ≤ integer ∧ integer ≤ 2147483647
  | _ => True

/-- An integer is narrowed to so many bytes exactly when they can hold it with its sign, and is
then written in two's complement. The two refusals are the two ways not to fit. -/
theorem narrow_eq_ok_iff (count : Nat) (integer : Int) (bytes : List UInt8) :
    narrow count integer = .ok bytes ↔
      (-(Bytes.span count : Int) ≤ 2 * integer ∧ 2 * integer < Bytes.span count) ∧
        Bytes.ofInt count integer = bytes := by
  unfold narrow
  split
  · rename_i large
    constructor
    · rintro ⟨⟩
    · rintro ⟨⟨-, high⟩, -⟩
      omega
  · rename_i high
    split
    · rename_i small
      constructor
      · rintro ⟨⟩
      · rintro ⟨⟨low, -⟩, -⟩
        omega
    · rename_i low
      constructor
      · intro narrowed
        exact ⟨⟨by omega, by omega⟩, Except.ok.inj narrowed⟩
      · rintro ⟨-, same⟩
        rw [same]

/-- What is narrowed has that many bytes, and the integer is found again in them, for it is
within half of what they hold. -/
theorem read_of_narrow {count : Nat} {integer : Int} {bytes : List UInt8}
    (narrowed : narrow count integer = .ok bytes) :
    bytes.length = count ∧ Bytes.toInt bytes = integer := by
  obtain ⟨⟨low, high⟩, rfl⟩ := (narrow_eq_ok_iff count integer bytes).mp narrowed
  exact ⟨Bytes.length_of_nat count _, Bytes.to_int_of_int low high⟩

/-- The types of columns that hold integers. -/
def IsInteger (type : ScalarType) : Prop := type = .int2 ∨ type = .int4 ∨ type = .int8

/-- How many bytes such a column has. -/
def width : ScalarType → Nat
  | .int2 => 2
  | .int4 => 4
  | _ => 8

/-- Half of what the bytes of a column can hold is on either side of zero. For eight bytes this
is the range of the integers themselves, so everything fits. -/
theorem fits_iff {type : ScalarType} (integral : IsInteger type) (number : Int64) :
    Fits type number.toInt ↔ -(Bytes.span (width type) : Int) ≤ 2 * number.toInt ∧
      2 * number.toInt < Bytes.span (width type) := by
  rcases integral with rfl | rfl | rfl
  · have span : Bytes.span (width .int2) = 65536 := by decide
    rw [span, Fits]
    omega
  · have span : Bytes.span (width .int4) = 4294967296 := by decide
    rw [span, Fits]
    omega
  · have span : Bytes.span (width .int8) = 18446744073709551616 := by decide
    have low := Int64.le_toInt number
    have high := Int64.toInt_lt number
    refine ⟨fun _ => ?_, fun _ => trivial⟩
    rw [span]
    omega

/-- An integer is narrowed to the bytes of the column, also where there is nothing to narrow. So
one law about narrowing is enough for all three integer columns. -/
theorem of_int_eq_narrow {type : ScalarType} (integral : IsInteger type) (number : Int64) :
    ofInt type number.toInt = narrow (width type) number.toInt := by
  have wide := (fits_iff (.inr (.inr rfl) : IsInteger .int8) number).mp trivial
  rcases integral with rfl | rfl | rfl
  · rfl
  · rfl
  · exact ((narrow_eq_ok_iff _ _ _).mpr ⟨wide, rfl⟩).symm

/-- A column of integers takes exactly what it can hold, neither less nor more. -/
theorem of_int_ok_iff {type : ScalarType} (integral : IsInteger type) (number : Int64) :
    (∃ bytes, ofInt type number.toInt = .ok bytes) ↔ Fits type number.toInt := by
  rw [of_int_eq_narrow integral, fits_iff integral]
  constructor
  · rintro ⟨bytes, narrowed⟩
    exact ((narrow_eq_ok_iff _ _ _).mp narrowed).1
  · intro inside
    exact ⟨_, (narrow_eq_ok_iff _ _ _).mpr ⟨inside, rfl⟩⟩

/-- What a column of integers takes fills its bytes, and is found again in them. -/
theorem read_of_int {type : ScalarType} (integral : IsInteger type) {number : Int64}
    {bytes : List UInt8} (sent : ofInt type number.toInt = .ok bytes) :
    bytes.length = width type ∧ readInteger type bytes = some number.toInt := by
  rw [of_int_eq_narrow integral] at sent
  obtain ⟨length, found⟩ := read_of_narrow sent
  have read : (if bytes.length = width type then some (Bytes.toInt bytes) else none) =
      some number.toInt := by rw [if_pos length, found]
  refine ⟨length, ?_⟩
  rcases integral with rfl | rfl | rfl
  all_goals exact read

/-- A column of texts takes every integer as its decimal digits, which are read back to it. -/
theorem read_of_decimal {type : ScalarType} (textual : type.isText = true) (integer : Int) :
    ofInt type integer = .ok (Bytes.ofDecimal integer) ∧
      readInteger type (Bytes.ofDecimal integer) = some integer ∧ Fits type integer := by
  have found : Text.signedNumber? ((Bytes.ofDecimal integer).map fun byte =>
      Char.ofNat byte.toNat) = some integer := by
    rw [Bytes.characters_of_decimal, Text.signed_number_decimal]
  cases type with
  | text => exact ⟨rfl, found, trivial⟩
  | varchar => exact ⟨rfl, found, trivial⟩
  | bpchar => exact ⟨rfl, found, trivial⟩
  | _ => cases textual

/-- Whether the value can be a member of a list of integers: an integer, null or a list. -/
def IsIntegerItem : Value → Prop
  | .null | .int _ | .list _ => True
  | _ => False

/-- Whether an array of the element type can hold the value as an item. -/
def FitsItem (type : ScalarType) : Value → Prop
  | .int number => Fits type number.toInt
  | .list _ => False
  | _ => True

/-- An array takes exactly the items that it can hold: null, and integers that fit its element
type, but no list. -/
theorem of_item_ok_iff {type : ScalarType} (integral : IsInteger type) {item : Value}
    (kind : IsIntegerItem item) : (∃ sent, ofScalar type item = .ok sent) ↔ FitsItem type item := by
  cases item with
  | null => exact ⟨fun _ => trivial, fun _ => ⟨none, rfl⟩⟩
  | int number => exact exists_map_ok_iff.trans (of_int_ok_iff integral number)
  | list items =>
    constructor
    · rintro ⟨sent, encoded⟩
      cases encoded
    · rintro ⟨⟩
  | _ => cases kind

/-- What an array has for an item. -/
structure ItemSent (type : ScalarType) (item : Value) (sent : Option (List UInt8)) : Prop where
  /-- Its length can be told. -/
  short : ∀ bytes ∈ sent, 2 * bytes.length < Bytes.span 4
  found : readValue type sent = some item
  blank : sent = none ↔ item = .null

/-- An item that an array takes is found again, and only null has no bytes. An integer has at
most eight, so that its length fits the head of the item. -/
theorem item_sent {type : ScalarType} (integral : IsInteger type) {item : Value}
    (kind : IsIntegerItem item) {sent : Option (List UInt8)} (encoded : ofScalar type item = .ok sent) :
    ItemSent type item sent := by
  cases item with
  | null =>
    cases encoded
    exact ⟨nofun, rfl, ⟨fun _ => rfl, fun _ => rfl⟩⟩
  | int number =>
    obtain ⟨bytes, narrowed, rfl⟩ := map_ok_iff.mp encoded
    obtain ⟨length, found⟩ := read_of_int integral narrowed
    have short : 2 * width type < Bytes.span 4 := by
      rcases integral with rfl | rfl | rfl
      all_goals decide
    constructor
    · rintro _ ⟨⟩
      rwa [length]
    · rw [readValue, found, Option.bind_some, Value.of_int_to_int]
    · exact ⟨nofun, nofun⟩
  | list items => cases encoded
  | _ => cases kind

/-- A list is sent when each of its members is, and then member by member. One that cannot be
sent stops the rest. -/
theorem of_items_ok_iff (type : ScalarType) (items : List Value)
    (sent : List (Option (List UInt8))) : ofItems type items = .ok sent ↔
      List.Forall₂ (fun item bytes => ofScalar type item = .ok bytes) items sent := by
  induction items generalizing sent with
  | nil =>
    rw [List.forall₂_nil_left_iff, ofItems]
    constructor
    · rintro ⟨⟩
      rfl
    · rintro rfl
      rfl
  | cons item rest inductionHypothesis =>
    rw [ofItems, List.forall₂_cons_left_iff]
    constructor
    · intro encoded
      cases first : ofScalar type item with
      | error issue =>
        rw [first] at encoded
        cases encoded
      | ok bytes =>
        cases later : ofItems type rest with
        | error issue =>
          rw [first, later] at encoded
          cases encoded
        | ok others =>
          rw [first, later] at encoded
          cases encoded
          exact ⟨bytes, others, rfl, (inductionHypothesis others).mp later, rfl⟩
    · rintro ⟨bytes, others, first, later, rfl⟩
      rw [first, (inductionHypothesis others).mpr later]
      rfl

/-- An item is read up to its end, whatever follows, because its length stands in front. A
length of minus one is read as null. -/
theorem read_item_framed {item : Option (List UInt8)}
    (short : ∀ bytes ∈ item, 2 * bytes.length < Bytes.span 4) (rest : List UInt8) :
    readItem (framed item ++ rest) = some (item, rest) := by
  cases item with
  | none =>
    have size : Bytes.toInt (Bytes.ofInt 4 (-1)) = -1 :=
      Bytes.to_int_of_int (by decide) (by decide)
    rw [readItem, framed, Bytes.ofInt, Bytes.front_of_nat]
    exact if_pos size
  | some bytes =>
    have size : Bytes.toInt (Bytes.ofNat 4 bytes.length) = bytes.length :=
      Bytes.to_int_of_nat (short bytes rfl)
    have positive : ¬ (bytes.length : Int) = -1 ∧ ¬ (bytes.length : Int) < 0 := by omega
    rw [readItem, framed, List.append_assoc, Bytes.front_of_nat]
    simp only [size, if_neg positive.1, if_neg positive.2, Int.toNat_natCast, Bytes.front_append,
      Option.map_some]

/-- Behind an item the others are read as if they began there. -/
theorem read_items_of_item {bytes rest : List UInt8} {item : Option (List UInt8)}
    (first : readItem bytes = some (item, rest)) :
    readItems bytes = (readItems rest).map (item :: ·) := by
  cases bytes with
  | nil => cases first
  | cons byte others =>
    rw [readItems]
    split
    · rename_i absent
      cases absent.symm.trans first
    · rename_i present
      cases present.symm.trans first
      rfl

/-- All items are read, one behind the other up to the end of the bytes. -/
theorem read_items_framed {items : List (Option (List UInt8))}
    (short : ∀ item ∈ items, ∀ bytes ∈ item, 2 * bytes.length < Bytes.span 4) :
    readItems (items.flatMap framed) = some items := by
  induction items with
  | nil => rw [List.flatMap_nil, readItems]
  | cons item rest inductionHypothesis =>
    have first := read_item_framed (short item List.mem_cons_self) (rest.flatMap framed)
    rw [List.flatMap_cons, read_items_of_item first,
      inductionHypothesis fun other inside => short other (List.mem_cons_of_mem item inside),
      Option.map_some]

/-- An array is read with all that its head tells: whether an item is null, its element type,
its first index, and the items themselves. -/
theorem read_array_of_array (type : ScalarType) (firstIndex : Nat)
    {items : List (Option (List UInt8))}
    (short : ∀ item ∈ items, ∀ bytes ∈ item, 2 * bytes.length < Bytes.span 4) :
    readArray (ofArray type firstIndex items) =
      some ⟨items.any Option.isNone, type.number % Bytes.span 4, firstIndex % Bytes.span 4,
        items⟩ := by
  have read : readItems (items.flatMap framed) = some items := read_items_framed short
  unfold readArray ofArray
  simp only [List.append_assoc, Bytes.front_of_nat, Option.bind_eq_bind, Option.bind_some,
    read, Bytes.to_nat_of_nat]
  have one : 1 % Bytes.span 4 = 1 := by decide
  cases items.any Option.isNone with
  | true => simp [one]
  | false => simp [one]

section Lists

variable {type : ScalarType} {items : List Value} {sent : List (Option (List UInt8))}

/-- A list of integers, null and lists is sent exactly when an array can hold every member.
Lists among the members are what no array can hold. -/
theorem of_integral_items_ok_iff (integral : IsInteger type)
    (kinds : ∀ item ∈ items, IsIntegerItem item) :
    (∃ sent, ofItems type items = .ok sent) ↔ ∀ item ∈ items, FitsItem type item := by
  simp only [of_items_ok_iff]
  induction items with
  | nil => exact ⟨fun _ _ absent => absurd absent List.not_mem_nil, fun _ => ⟨[], .nil⟩⟩
  | cons item rest inductionHypothesis =>
    rw [List.forall_mem_cons] at kinds
    rw [List.forall_mem_cons, ← of_item_ok_iff integral kinds.1, ← inductionHypothesis kinds.2]
    constructor
    · rintro ⟨_, _ | ⟨first, later⟩⟩
      exact ⟨⟨_, first⟩, ⟨_, later⟩⟩
    · rintro ⟨⟨_, first⟩, ⟨_, later⟩⟩
      exact ⟨_, .cons first later⟩

/-- Each member of a list that was sent is found again in what was sent for it. -/
theorem items_sent (integral : IsInteger type) (kinds : ∀ item ∈ items, IsIntegerItem item)
    (encoded : ofItems type items = .ok sent) : List.Forall₂ (ItemSent type) items sent := by
  have each := (of_items_ok_iff type items sent).mp encoded
  induction each with
  | nil => exact .nil
  | cons first later inductionHypothesis =>
    rw [List.forall_mem_cons] at kinds
    exact .cons (item_sent integral kinds.1 first)
      (inductionHypothesis kinds.2 ((of_items_ok_iff _ _ _).mpr later))

/-- What was sent item by item is read as the list that it was, and an item without bytes is
there exactly when null was a member. -/
theorem read_of_items (each : List.Forall₂ (ItemSent type) items sent) :
    (∀ item ∈ sent, ∀ bytes ∈ item, 2 * bytes.length < Bytes.span 4) ∧
      sent.mapM (readValue type) = some items ∧
        (sent.any Option.isNone = true ↔ Value.null ∈ items) := by
  induction each with
  | nil => simp
  | cons first later inductionHypothesis =>
    obtain ⟨short, found, blank⟩ := inductionHypothesis
    refine ⟨List.forall_mem_cons.mpr ⟨first.short, short⟩, ?_, ?_⟩
    · rw [List.mapM_cons, first.found, found]
      rfl
    · rw [List.any_cons, Bool.or_eq_true, Option.isNone_iff_eq_none, first.blank, blank,
        List.mem_cons, eq_comm]

end Lists

/-- A column of integers or of texts sends an integer exactly when it can hold it. Columns of
texts can hold all of them. -/
theorem encode_int_ok_iff {type : ScalarType} (takes : IsInteger type ∨ type.isText = true)
    (number : Int64) :
    (∃ written, encode (.scalar type) (.int number) = .ok written) ↔ Fits type number.toInt := by
  refine exists_map_ok_iff.trans ?_
  rcases takes with integral | textual
  · exact of_int_ok_iff integral number
  · obtain ⟨taken, _, fits⟩ := read_of_decimal textual number.toInt
    exact ⟨fun _ => fits, fun _ => ⟨_, taken⟩⟩

/-- What a column of integers or of texts sends for an integer denotes this integer, in two's
complement or in decimal digits. -/
theorem read_of_encode_int {type : ScalarType} (takes : IsInteger type ∨ type.isText = true)
    {number : Int64} {written : Option (List UInt8)}
    (encoded : encode (.scalar type) (.int number) = .ok written) :
    ∃ bytes, written = some bytes ∧ readInteger type bytes = some number.toInt := by
  obtain ⟨bytes, fitted, rfl⟩ := map_ok_iff.mp encoded
  refine ⟨bytes, rfl, ?_⟩
  rcases takes with integral | textual
  · exact (read_of_int integral fitted).2
  · obtain ⟨taken, found, _⟩ := read_of_decimal textual number.toInt
    cases taken.symm.trans fitted
    exact found

/-- An array can hold all members when none is a list and the element type can hold each
integer. -/
theorem forall_fits_item_iff (type : ScalarType) (items : List Value) :
    (∀ item ∈ items, FitsItem type item) ↔ (∀ item ∈ items, item.isList = false) ∧
      ∀ number, .int number ∈ items → Fits type number.toInt := by
  constructor
  · intro fit
    constructor
    · intro item inside
      cases item with
      | list members => cases fit _ inside
      | _ => rfl
    · intro number inside
      exact fit _ inside
  · rintro ⟨flat, small⟩ item inside
    cases item with
    | int number => exact small number inside
    | list members => cases flat _ inside
    | _ => trivial

/-- What a column of arrays sends is read as the list that it was, with its members in order,
and says that one is null exactly when one was. -/
theorem read_of_encode_list {type : ScalarType} (integral : IsInteger type) {name : String}
    {firstIndex : Nat} {items : List Value} (kinds : ∀ item ∈ items, IsIntegerItem item)
    {written : Option (List UInt8)}
    (encoded : encode (.array name type firstIndex) (.list items) = .ok written) :
    ∃ bytes hasNull, written = some bytes ∧ readIntegers type bytes = some (hasNull, items) ∧
      (hasNull = true ↔ Value.null ∈ items) := by
  obtain ⟨sent, members, rfl⟩ := map_ok_iff.mp encoded
  obtain ⟨short, found, blank⟩ := read_of_items (items_sent integral kinds members)
  have number : type.number % Bytes.span 4 = type.number := by
    rcases integral with rfl | rfl | rfl
    all_goals decide
  refine ⟨_, sent.any Option.isNone, rfl, ?_, blank⟩
  rw [readIntegers, read_array_of_array type firstIndex short]
  simp only [Option.bind_eq_bind, Option.bind_some, found, number, if_true]

end Binding

/-- A column of integers takes an integer exactly when it can hold it, a column of texts takes
every integer, and the bytes sent denote that integer. A column of arrays of integers takes a
list of integers, null and lists exactly when no member is a list and the element type can hold
every integer; the array sent then has the members as its items, in order, and tells whether one
of them is null.

One integer is a number written in so many bytes and read from them. An array is read item by
item, each with its own length in front, by induction over the members. -/
theorem integers_bound_without_loss (type : ScalarType) :
    (IsInteger type ∨ type.isText = true → ∀ number : Int64,
        ((∃ written, encode (.scalar type) (.int number) = .ok written) ↔
            Fits type number.toInt) ∧
          ∀ written, encode (.scalar type) (.int number) = .ok written →
            ∃ bytes, written = some bytes ∧ readInteger type bytes = some number.toInt) ∧
      (IsInteger type → ∀ (name : String) (firstIndex : Nat) (items : List Value),
        (∀ item ∈ items, IsIntegerItem item) →
        ((∃ written, encode (.array name type firstIndex) (.list items) = .ok written) ↔
            (∀ item ∈ items, item.isList = false) ∧
              ∀ number, .int number ∈ items → Fits type number.toInt) ∧
          ∀ written, encode (.array name type firstIndex) (.list items) = .ok written →
            ∃ bytes hasNull, written = some bytes ∧
              readIntegers type bytes = some (hasNull, items) ∧
                (hasNull = true ↔ Value.null ∈ items)) := by
  constructor
  · intro takes number
    exact ⟨encode_int_ok_iff takes number, fun written encoded => read_of_encode_int takes encoded⟩
  · intro integral name firstIndex items kinds
    refine ⟨?_, fun written encoded => read_of_encode_list integral kinds encoded⟩
    rw [← forall_fits_item_iff, ← of_integral_items_ok_iff integral kinds]
    exact exists_map_ok_iff

/-- The column of arrays that its name stands for is one of these. -/
example : ColumnType.ofName "_int4" = .array "_int4" .int4 1 := rfl

/-- The least integer of a column with two bytes is sent, the one after the greatest is not,
and an array of such integers has a null between two of them. -/
theorem least_integer_and_null_bound_without_loss :
    (encode (.scalar .int2) (.int (-32768)) = .ok (some [128, 0]) ∧
      ∃ bytes, some [128, 0] = some bytes ∧ readInteger .int2 bytes = some (-32768)) ∧
    (¬ ∃ written, encode (.scalar .int2) (.int 32768) = .ok written) ∧
    encode (.array "_int2" .int2 1) (.list [.int 7, .null, .int (-1)]) =
        .ok (some [0, 0, 0, 1, 0, 0, 0, 1, 0, 0, 0, 21, 0, 0, 0, 3, 0, 0, 0, 1,
          0, 0, 0, 2, 0, 7, 255, 255, 255, 255, 0, 0, 0, 2, 255, 255]) ∧
      ∃ bytes hasNull, some [0, 0, 0, 1, 0, 0, 0, 1, 0, 0, 0, 21, 0, 0, 0, 3, 0, 0, 0, 1,
          0, 0, 0, 2, 0, 7, 255, 255, 255, 255, 0, 0, 0, 2, 255, 255] = some bytes ∧
        readIntegers .int2 bytes = some (hasNull, [.int 7, .null, .int (-1)]) ∧
          (hasNull = true ↔ Value.null ∈ [.int 7, .null, .int (-1)]) := by
  obtain ⟨columns, arrays⟩ := integers_bound_without_loss .int2
  have narrow : IsInteger .int2 := .inl rfl
  refine ⟨⟨rfl, (columns (.inl narrow) (-32768)).2 _ rfl⟩, fun sent => ?_, rfl, ?_⟩
  · have fits : -32768 ≤ (32768 : Int64).toInt ∧ (32768 : Int64).toInt ≤ 32767 :=
      (columns (.inl narrow) 32768).1.mp sent
    exact absurd fits.2 (by decide)
  · refine (arrays narrow "_int2" 1 [.int 7, .null, .int (-1)] ?_).2 _ rfl
    simp [IsIntegerItem]

end SqlCondition
