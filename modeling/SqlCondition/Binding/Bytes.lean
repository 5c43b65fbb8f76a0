import SqlCondition.Text.Digits

/-!
# Numbers as bytes

Numbers in a fixed count of bytes, the most significant first. Integers are
written in two's complement.
-/

namespace SqlCondition.Bytes

/-- How many numbers a count of bytes can hold. -/
def span (count : Nat) : Nat := 1 <<< (8 * count)

/-- The low bytes of a number, the most significant first. -/
def ofNat : Nat → Nat → List UInt8
  | 0, _ => []
  | count + 1, number => UInt8.ofNat (number / span count % 256) :: ofNat count number

/-- An integer in two's complement. -/
def ofInt (count : Nat) (integer : Int) : List UInt8 :=
  ofNat count (integer % span count).toNat

/-- The number that bytes denote, behind the number already read. -/
def toNatFrom (read : Nat) : List UInt8 → Nat
  | [] => read
  | byte :: rest => toNatFrom (256 * read + byte.toNat) rest

/-- The number that bytes denote. -/
def toNat (bytes : List UInt8) : Nat := toNatFrom 0 bytes

/-- The integer that bytes denote in two's complement. -/
def toInt (bytes : List UInt8) : Int :=
  if 2 * toNat bytes < span bytes.length then toNat bytes
  else toNat bytes - span bytes.length

/-- A number fills the given count of bytes, whether it fits them or not. -/
theorem length_of_nat (count number : Nat) : (ofNat count number).length = count := by
  induction count with
  | zero => rfl
  | succ count inductionHypothesis => simp [ofNat, inductionHypothesis]

/-- One more byte holds 256 times as many numbers. Inductions over bytes go by this step. -/
theorem span_succ (count : Nat) : span (count + 1) = 256 * span count := by
  simp only [span, Nat.shiftLeft_eq, Nat.one_mul, Nat.mul_add, Nat.pow_add]
  omega

/-- Some number can be held, even in no byte at all. -/
theorem span_pos (count : Nat) : 0 < span count := by
  rw [span, Nat.shiftLeft_eq, Nat.one_mul]
  exact Nat.pow_pos (by decide)

/-- What was read before is in front of all bytes that follow, and counts as many times as these
can hold numbers. -/
theorem to_nat_from_eq (read : Nat) (bytes : List UInt8) :
    toNatFrom read bytes = span bytes.length * read + toNat bytes := by
  induction bytes generalizing read with
  | nil => simp [toNatFrom, toNat, span]
  | cons byte rest inductionHypothesis =>
    rw [toNat, toNatFrom, toNatFrom, inductionHypothesis, inductionHypothesis (256 * 0 + _),
      List.length_cons, span_succ, Nat.mul_add, Nat.mul_zero, Nat.zero_add, Nat.add_assoc]
    congr 1
    rw [Nat.mul_left_comm, Nat.mul_assoc]

/-- A number is found again in its bytes as far as they can hold it. -/
theorem to_nat_of_nat (count number : Nat) : toNat (ofNat count number) = number % span count := by
  induction count with
  | zero => simp [ofNat, toNat, toNatFrom, span, Nat.mod_one]
  | succ count inductionHypothesis =>
    have byte : (UInt8.ofNat (number / span count % 256)).toNat = number / span count % 256 := by
      rw [UInt8.toNat_ofNat']
      omega
    rw [ofNat, toNat, toNatFrom, to_nat_from_eq, inductionHypothesis, length_of_nat, span_succ,
      Nat.mul_zero, Nat.zero_add, byte, Nat.mul_comm 256, Nat.mod_mul, Nat.add_comm]

/-- In two's complement it is found again when it takes up at most half of what they hold. -/
theorem to_int_of_nat {count number : Nat} (small : 2 * number < span count) :
    toInt (ofNat count number) = number := by
  have inside : number % span count = number := Nat.mod_eq_of_lt (by omega)
  rw [toInt, to_nat_of_nat, length_of_nat, inside, if_pos small]

/-- An integer is found again when it is within half of what the bytes hold on its side of
zero. -/
theorem to_int_of_int {count : Nat} {integer : Int} (low : -(span count : Int) ≤ 2 * integer)
    (high : 2 * integer < span count) : toInt (ofInt count integer) = integer := by
  have positive := span_pos count
  by_cases negative : integer < 0
  · have wrapped : integer % span count = integer + span count := by
      rw [← Int.add_emod_right, Int.emod_eq_of_lt (by omega) (by omega)]
    have inside : (integer + span count).toNat % span count = (integer + span count).toNat :=
      Nat.mod_eq_of_lt (by omega)
    rw [toInt, ofInt, to_nat_of_nat, length_of_nat, wrapped, inside, if_neg (by omega)]
    omega
  · have same : integer % span count = integer := Int.emod_eq_of_lt (by omega) (by omega)
    rw [ofInt, same, to_int_of_nat (by omega)]
    omega

/-- The digits of an integer as bytes. -/
def ofDecimal (integer : Int) : List UInt8 :=
  (Text.signedDecimal integer).map fun digit => UInt8.ofNat digit.toNat

end SqlCondition.Bytes
