/-!
# Decimal digits

Writing natural numbers in base ten, also with zeros in front up to a width, and
reading the digits at the front of a text.
-/

namespace SqlCondition.Text

/-- The decimal digits of a number. -/
def decimal (number : Nat) : List Char := Nat.toDigits 10 number

/-- The decimal digits of a number, with zeros in front up to a width. -/
def padded (width number : Nat) : List Char :=
  List.replicate (width - (decimal number).length) '0' ++ decimal number

/-- The decimal digits of an integer behind its sign, which is written only when
negative. -/
def signedDecimal (integer : Int) : List Char :=
  if integer < 0 then '-' :: decimal integer.natAbs else decimal integer.natAbs

/-- The digits at the front, at most as many as allowed, and what follows. -/
def leadingDigits : Nat → List Char → List Char × List Char
  | 0, text => ([], text)
  | _ + 1, [] => ([], [])
  | allowed + 1, character :: rest =>
      if character.isDigit then
        let later := leadingDigits allowed rest
        (character :: later.1, later.2)
      else ([], character :: rest)

/-- The number that digits denote. -/
def number (digits : List Char) : Nat := Nat.ofDigitChars 10 digits 0

/-- The number that a text of digits denotes. -/
def wholeNumber? (text : List Char) : Option Nat :=
  if text ≠ [] ∧ text.all Char.isDigit then some (number text) else none

/-- The integer that a text of digits denotes, which may have a minus in front. -/
def signedNumber? : List Char → Option Int
  | '-' :: digits => (wholeNumber? digits).map fun magnitude : Nat => -(magnitude : Int)
  | digits => (wholeNumber? digits).map Int.ofNat

/-- Digits are read up to the bound, or up to the first character that is none. -/
theorem leading_digits_of_digits (allowed : Nat) (digits rest : List Char)
    (numeric : ∀ character ∈ digits, character.isDigit = true) (fits : digits.length ≤ allowed)
    (stops : digits.length < allowed → ∀ character ∈ rest.head?, character.isDigit = false) :
    leadingDigits allowed (digits ++ rest) = (digits, rest) := by
  induction digits generalizing allowed with
  | nil =>
    cases allowed with
    | zero => rfl
    | succ allowed =>
      cases rest with
      | nil => rfl
      | cons character tail =>
        have stopped := stops (Nat.succ_pos allowed) character rfl
        simp [leadingDigits, stopped]
  | cons digit digits inductionHypothesis =>
    cases allowed with
    | zero => cases fits
    | succ allowed =>
      have later := inductionHypothesis allowed
        (fun character inside => numeric character (List.mem_cons_of_mem digit inside))
        (Nat.le_of_succ_le_succ fits) fun short => stops (Nat.succ_lt_succ short)
      simp [leadingDigits, numeric digit List.mem_cons_self, later]

/-- Padded numbers consist of digits, those in front included. -/
theorem padded_numeric (width number : Nat) :
    ∀ character ∈ padded width number, character.isDigit = true := by
  intro character inside
  rcases List.mem_append.mp inside with zero | digit
  · rw [(List.mem_replicate.mp zero).2]
    rfl
  · exact Nat.isDigit_of_mem_toDigits (by decide) (by decide) digit

/-- A number is padded to at least one digit, even to no width at all. -/
theorem padded_ne_nil (width number : Nat) : padded width number ≠ [] := by
  intro blank
  rw [padded, List.append_eq_nil_iff] at blank
  exact Nat.toDigits_ne_nil blank.2

/-- A number that fits its width is padded to it, and reading can rely on the width. -/
theorem length_padded {width number : Nat} (positive : 0 < width) (fits : number < Nat.pow 10 width) :
    (padded width number).length = width := by
  have short : (decimal number).length ≤ width :=
    (Nat.length_toDigits_le_iff (by decide) positive).mpr fits
  rw [padded, List.length_append, List.length_replicate, Nat.sub_add_cancel short]

/-- A padded number is found again, whatever its width is. -/
theorem number_padded (width value : Nat) : number (padded width value) = value := by
  rw [number, padded, Nat.ofDigitChars_append, Nat.ofDigitChars_replicate_zero, Nat.mul_zero]
  exact Nat.ofDigitChars_ten_toDigits

/-- So is a number in its decimal digits, when the whole text is taken for a number. -/
theorem whole_number_decimal (value : Nat) : wholeNumber? (decimal value) = some value := by
  have numeric : (decimal value).all Char.isDigit = true := List.all_eq_true.mpr fun _ inside =>
    Nat.isDigit_of_mem_toDigits (by decide) (by decide) inside
  rw [wholeNumber?, if_pos ⟨Nat.toDigits_ne_nil, numeric⟩]
  exact congrArg some Nat.ofDigitChars_ten_toDigits

/-- And an integer behind its sign, which only negative ones have. -/
theorem signed_number_decimal (integer : Int) :
    signedNumber? (signedDecimal integer) = some integer := by
  unfold signedDecimal
  split
  · rename_i negative
    simp only [signedNumber?, whole_number_decimal, Option.map_some]
    congr 1
    omega
  · rename_i positive
    have numeric : ∀ character ∈ decimal integer.natAbs, character.isDigit = true :=
      fun _ inside => Nat.isDigit_of_mem_toDigits (by decide) (by decide) inside
    unfold signedNumber?
    split
    · rename_i digits minus
      have digit := numeric '-' (minus ▸ List.mem_cons_self)
      exact absurd digit (by decide)
    · rw [whole_number_decimal, Option.map_some]
      exact congrArg some (Int.natAbs_of_nonneg (Int.not_lt.mp positive))

end SqlCondition.Text
