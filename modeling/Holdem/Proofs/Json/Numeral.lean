import Holdem.Json.Printer
import Holdem.Json.Reader

/-!
# Reading numerals back

An integer is written with a minus sign or none and with the digits of its magnitude, which are read
as they were written: no zero stands in front of others, and what ends a value goes on with neither a
digit nor a point nor an exponent.
-/

namespace Holdem

namespace Numeral

variable {value : Nat}

theorem digitsOf_of_lt (small : value < 10) : digitsOf value = [value] := by
  have digit : ∀ digit < 10, digit.digitChar.toNat - 48 = digit := by decide
  rw [digitsOf, Nat.toString_eq_repr, Nat.toList_repr, Nat.toDigits_of_lt_base small,
    List.map_singleton, digit value small]

theorem digitsOf_of_le (large : 10 ≤ value) :
    digitsOf value = digitsOf (value / 10) ++ digitsOf (value % 10) := by
  have last : value % 10 < 10 := Nat.mod_lt _ (by decide)
  simp only [digitsOf, Nat.toString_eq_repr, Nat.toList_repr]
  rw [Nat.toDigits_of_base_le (by decide) large, Nat.toDigits_of_lt_base last, List.map_append]

theorem valueOf_append_singleton (digits : List Nat) (digit : Nat) :
    valueOf (digits ++ [digit]) = 10 * valueOf digits + digit := by
  rw [valueOf, List.foldl_append, List.foldl_cons, List.foldl_nil, ← valueOf]

/-- Digits of a value as they are printed: one or more, each below ten, and a zero in front only
where it stands alone. -/
structure Printed (value : Nat) (digits : List Nat) : Prop where
  filled : digits ≠ []
  small : ∀ digit ∈ digits, digit < 10
  leading : digits.head? = some 0 → digits = [0]
  worth : valueOf digits = value

theorem printed_digitsOf (value : Nat) : Printed value (digitsOf value) := by
  induction value using Nat.strongRecOn with
  | ind value hypothesis =>
    rcases Nat.lt_or_ge value 10 with small | large
    · rw [digitsOf_of_lt small]
      exact ⟨by simp, by simpa using small, by simp, by simp [valueOf]⟩
    · have last : value % 10 < 10 := Nat.mod_lt _ (by decide)
      have front := hypothesis (value / 10) (by omega)
      rw [digitsOf_of_le large, digitsOf_of_lt last]
      refine ⟨by simp, ?_, ?_, ?_⟩
      · simpa [or_imp, forall_and, last] using front.small
      · intro first
        rw [List.head?_append, List.head?_eq_some_head front.filled, Option.some_or,
          ← List.head?_eq_some_head front.filled] at first
        have worth := front.worth
        rw [front.leading first] at worth
        exact absurd worth.symm (Nat.ne_of_gt (Nat.div_pos large (by decide)))
      · rw [valueOf_append_singleton, front.worth]
        omega

theorem literal?_ofInt (value : Int) : (ofInt value).literal? = some value := by
  have worth : valueOf (digitsOf value.natAbs) = value.natAbs :=
    (printed_digitsOf value.natAbs).worth
  simp only [ofInt, literal?, worth, decide_eq_true_eq, Option.some.injEq]
  split <;> omega

/-- The integers of 64 bits, with a sign or without one. -/
def isWord (value : Int) : Bool :=
  -0x8000000000000000 ≤ value && value ≤ Text.maxWord64

/-- Of the written integers those of 64 bits are held exactly. -/
theorem word?_ofInt (value : Int) :
    (ofInt value).word? = if isWord value then some value else none := by
  rw [word?, literal?_ofInt]
  by_cases negative : value < 0
  · have below : value ≤ Text.maxWord64 := Int.le_trans (Int.le_of_lt negative) (by decide)
    simp [ofInt, isWord, negative, below]
  · have above : -0x8000000000000000 ≤ value := by omega
    simp [ofInt, isWord, negative, above]

theorem inRange_of_isWord {value : Int} (word : isWord value = true) :
    (ofInt value).inRange = true := by
  simp [inRange, word?_ofInt, word]

end Numeral

namespace Json

variable {rest : List Char}

/-- What may stand after a value: nothing, a comma or a closing bracket. -/
def Ends (rest : List Char) : Prop :=
  ∀ c, rest.head? = some c → c ∈ [',', ']', '\x7d']

/-! ## Numerals -/

theorem isDigit_of_mem_digitLetters {digits : List Nat} (small : ∀ digit ∈ digits, digit < 10) :
    ∀ c ∈ digitLetters digits, c.isDigit = true := by
  have isDigit : ∀ digit < 10, (Char.ofNat (48 + digit)).isDigit = true := by decide
  intro c member
  rcases List.mem_map.mp member with ⟨digit, among, rfl⟩
  exact isDigit digit (small digit among)

theorem digitRun_digitLetters {digits : List Nat} (small : ∀ digit ∈ digits, digit < 10)
    (ends : Ends rest) : digitRun (digitLetters digits ++ rest) = (digits, rest) := by
  have worth : ∀ digit < 10, (Char.ofNat (48 + digit)).toNat - 48 = digit := by decide
  have all := isDigit_of_mem_digitLetters small
  have none : rest.takeWhile Char.isDigit = [] ∧ rest.dropWhile Char.isDigit = rest := by
    cases rest with
    | nil => exact ⟨rfl, rfl⟩
    | cons c rest =>
      have noDigit : ∀ c ∈ [',', ']', '\x7d'], ¬c.isDigit = true := by simp
      have other := noDigit c (ends c rfl)
      exact ⟨List.takeWhile_cons_of_neg other, List.dropWhile_cons_of_neg other⟩
  rw [digitRun, List.takeWhile_append_of_pos all, List.dropWhile_append_of_pos all, none.1, none.2,
    List.append_nil, digitLetters, List.map_map, Prod.mk.injEq]
  have same := List.map_congr_left fun digit among => worth digit (small digit among)
  exact ⟨same.trans (List.map_id digits), rfl⟩

theorem wholePart_digitLetters {value : Nat} {digits : List Nat}
    (printed : Numeral.Printed value digits) (ends : Ends rest) :
    wholePart (digitLetters digits ++ rest) = some (digits, rest) := by
  rw [wholePart, digitRun_digitLetters printed.small ends]
  split
  case h_1 none =>
    cases none
    exact absurd rfl printed.filled
  case h_2 zero =>
    cases zero
    exact absurd (printed.leading rfl) (by simp)
  case h_3 found =>
    cases found
    rfl

theorem fractionPart_of_ends (ends : Ends rest) : fractionPart rest = some (none, rest) := by
  rw [fractionPart.eq_def]
  split
  case h_1 letters => exact absurd (ends '.' rfl) (by decide)
  case h_2 => rfl

theorem exponentPart_of_ends (ends : Ends rest) : exponentPart rest = some (none, rest) := by
  cases rest with
  | nil => rfl
  | cons c rest =>
    have other : ∀ c ∈ [',', ']', '\x7d'], (c = 'e' || c = 'E') = false := by simp
    simp only [exponentPart, other c (ends c rfl), Bool.false_eq_true, if_false]

theorem numeralLetters_of_neg {value : Int} (negative : value < 0) :
    numeralLetters (.ofInt value) = '-' :: digitLetters (Numeral.digitsOf value.natAbs) := by
  simp [numeralLetters, Numeral.ofInt, negative]

theorem numeralLetters_of_not_neg {value : Int} (notNegative : ¬value < 0) :
    numeralLetters (.ofInt value) = digitLetters (Numeral.digitsOf value.natAbs) := by
  simp [numeralLetters, Numeral.ofInt, notNegative]

theorem exists_digitLetters_eq_cons (value : Nat) :
    ∃ c more, digitLetters (Numeral.digitsOf value) = c :: more ∧ c.isDigit = true := by
  have printed := Numeral.printed_digitsOf value
  rcases List.exists_cons_of_ne_nil printed.filled with ⟨digit, more, cut⟩
  have digits := isDigit_of_mem_digitLetters printed.small
  rw [cut, digitLetters, List.map_cons] at digits ⊢
  exact ⟨_, _, rfl, digits _ List.mem_cons_self⟩

/-- Gaps, a closing bracket and the letters that a value other than a numeral begins with. -/
def signs : List Char := [' ', '\t', '\n', '\r', ']', 'n', 't', 'f', '"', '[', '\x7b']

/-- A written integer begins with a minus sign or a digit. -/
theorem exists_numeralLetters_eq_cons (value : Int) :
    ∃ c more, numeralLetters (.ofInt value) = c :: more ∧ c ∉ signs := by
  by_cases negative : value < 0
  · exact ⟨_, _, numeralLetters_of_neg negative, by decide⟩
  · have noDigit : ∀ c ∈ signs, ¬c.isDigit = true := by simp [signs]
    rcases exists_digitLetters_eq_cons value.natAbs with ⟨c, more, cut, isDigit⟩
    exact ⟨c, more, (numeralLetters_of_not_neg negative).trans cut,
      fun member => noDigit c member isDigit⟩

theorem isGap_of_notMem_signs {c : Char} (other : c ∉ signs) : isGap c = false := by
  simp only [signs, List.mem_cons, not_or] at other
  simp [isGap, other]

theorem numeral_numeralLetters (value : Int) (ends : Ends rest) :
    numeral (numeralLetters (.ofInt value) ++ rest) = some (.ofInt value, rest) := by
  have whole := wholePart_digitLetters (Numeral.printed_digitsOf value.natAbs) ends
  have fraction := fractionPart_of_ends ends
  have exponent := exponentPart_of_ends ends
  by_cases negative : value < 0
  · rw [numeralLetters_of_neg negative, List.cons_append, numeral, whole]
    simp [fraction, exponent, Numeral.ofInt, negative]
  · have noMinus : ∀ letters,
        digitLetters (Numeral.digitsOf value.natAbs) ++ rest ≠ '-' :: letters := by
      rcases exists_digitLetters_eq_cons value.natAbs with ⟨c, more, cut, isDigit⟩
      rintro letters same
      rw [cut, List.cons_append, List.cons.injEq] at same
      exact absurd isDigit (by rw [same.1]; decide)
    rw [numeralLetters_of_not_neg negative, numeral, whole]
    · simp [fraction, exponent, Numeral.ofInt, negative]
    · exact noMinus

end Json

end Holdem
