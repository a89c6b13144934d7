import Holdem.Proofs.Text.Decimal
import Holdem.Proofs.Text.Words

/-!
# Printed integers

An integer is printed as the digits of its magnitude, behind a minus sign when it is negative. The
readers give it back as far as their limits reach and otherwise nothing; a reader of naturals takes
every minus sign for a fault. There is no blank in what is printed, so trimming leaves it as it is.
-/

namespace Holdem.Text

variable {limit value number : Nat} {excess : IntegerFault} {c : Char}

theorem isBlank_of_isDigit (isDigit : c.isDigit = true) : isBlank c = false := by
  rw [Char.isDigit_iff_toNat] at isDigit
  have bounds : 48 ≤ c.toNat ∧ c.toNat ≤ 57 := isDigit
  simp only [isBlank, Bool.or_eq_false_iff, Bool.and_eq_false_iff, decide_eq_false_iff_not]
  omega

/-- A printed integer has no other letters than a minus sign and digits. -/
theorem minus_or_isDigit_of_mem_toString {integer : Int}
    (member : c ∈ (toString integer).toList) : c = '-' ∨ c.isDigit = true := by
  cases integer with
  | ofNat number =>
    change c ∈ (toString number).toList at member
    exact .inr (isDigit_of_mem_toString member)
  | negSucc number =>
    rw [toList_toString_negSucc] at member
    exact (List.mem_cons.mp member).imp_right isDigit_of_mem_toString

theorem toString_ne_empty (integer : Int) : toString integer ≠ "" := by
  intro empty
  have letters : (toString integer).toList = [] := by rw [empty]; rfl
  cases integer with
  | ofNat number => exact Nat.toDigits_ne_nil ((toList_toString number).symm.trans letters)
  | negSucc number => cases (toList_toString_negSucc number).symm.trans letters

theorem isSolid_toString (integer : Int) : IsSolid (toString integer) where
  filled := toString_ne_empty integer
  noBlank c member := by
    rcases minus_or_isDigit_of_mem_toString member with rfl | isDigit
    · decide
    · exact isBlank_of_isDigit isDigit

theorem trim_toString (integer : Int) : trim (toString integer) = toString integer :=
  trim_of_no_blank (isSolid_toString integer).noBlank

/-! ## Reading them -/

theorem decimal_toString_iff : Decimal (toString value) number ↔ value = number := by
  constructor
  · exact fun decimal => (decimal_toString value).unique decimal
  · rintro rfl
    exact decimal_toString value

theorem digits_toString :
    digits limit excess (toString value).toList = .ok number ↔ value = number ∧ value ≤ limit := by
  have filled : (toString value).toList ≠ [] := (isSolid_toString value).ne_nil
  have worth : Nat.ofDigitChars 10 (toString value).toList 0 = value := by
    rw [toList_toString, Nat.ofDigitChars_toDigits (by decide) (by decide)]
  rw [digits_eq_ok_iff, worth]
  constructor
  · rintro ⟨_, _, rfl, within⟩
    exact ⟨rfl, within⟩
  · rintro ⟨rfl, within⟩
    exact ⟨filled, fun c member => isDigit_of_mem_toString member, rfl, within⟩

/-- A printed integer is read back when it is within the limits. -/
theorem readInteger_toString {integer other : Int} :
    readInteger limit (toString integer) = .ok other ↔
      integer = other ∧ -(limit : Int) - 1 ≤ integer ∧ integer ≤ limit := by
  rw [readInteger_eq_ok_iff]
  cases integer with
  | ofNat value =>
    have noMinus : ∀ letters, (toString (Int.ofNat value)).toList ≠ '-' :: letters :=
      fun letters minus => not_decimal_of_minus minus (decimal_toString value)
    have decimal (number : Nat) : Decimal (toString (Int.ofNat value)) number ↔ value = number :=
      decimal_toString_iff
    simp only [decimal, noMinus, false_and, exists_false, or_false, exists_eq_left']
    rw [Int.ofNat_eq_natCast]
    omega
  | negSucc value =>
    have minus := toList_toString_negSucc value
    simp only [not_decimal_of_minus minus, false_and, exists_false, false_or, minus,
      List.cons.injEq, true_and, exists_and_left, exists_eq_left', digits_toString, and_assoc]
    rw [Int.negSucc_eq]
    omega

theorem amount?_toString (integer : Int) :
    amount? (toString integer) =
      if -(maxAmount : Int) - 1 ≤ integer ∧ integer ≤ maxAmount then some integer else none := by
  ext amount
  rw [amount?_eq_some_iff, readInteger_toString, Option.ite_none_right_eq_some, Option.some.injEq,
    and_comm]

/-- A printed integer is read as a counter when it is one. -/
theorem count32?_toString (integer : Int) :
    count32? (toString integer) =
      if 0 ≤ integer ∧ integer ≤ maxWord32 then some integer.toNat else none := by
  ext number
  rw [count32?_eq_some_iff, Option.ite_none_right_eq_some, Option.some.injEq]
  cases integer with
  | ofNat value =>
    have decimal : Decimal (toString (Int.ofNat value)) number ↔ value = number :=
      decimal_toString_iff
    rw [decimal, Int.ofNat_eq_natCast]
    omega
  | negSucc value =>
    have minus := toList_toString_negSucc value
    simp only [not_decimal_of_minus minus, false_and, false_iff]
    rw [Int.negSucc_eq]
    omega

end Holdem.Text
