import Holdem.Text.Integer

/-!
# Decimal numbers

What the readers of integers accept, said without their loop. A decimal is one or more digits after a
plus sign or none, and it is worth the value of its digits. The readers stop at the first digit that
takes the value above the limit, but a value never falls when a digit is read, so they accept exactly
the decimals whose value is within the limit.
-/

namespace Holdem

theorem map_eq_ok_iff {read : Except ε α} {f : α → β} {result : β} :
    read.map f = .ok result ↔ ∃ value, read = .ok value ∧ f value = result := by
  cases read <;> simp [Except.map]

namespace Text

variable {limit value number : Nat} {excess : IntegerFault} {letters : List Char} {word : String}
  {c : Char}

theorem digit?_eq_some_iff {digit : Nat} :
    digit? c = some digit ↔ c.isDigit = true ∧ c.toNat - 48 = digit := by
  have bounds : ('0' ≤ c ∧ c ≤ '9') ↔ c.isDigit = true := by
    rw [Char.isDigit_iff_toNat, Char.le_def, Char.le_def, UInt32.le_iff_toNat_le,
      UInt32.le_iff_toNat_le]
    rfl
  rw [digit?, ← bounds]
  split
  case isTrue isDigit => simp [isDigit]
  case isFalse other => simp only [reduceCtorEq, other, false_and]

theorem le_ofDigitChars (letters : List Char) (value : Nat) :
    value ≤ Nat.ofDigitChars 10 letters value := by
  induction letters generalizing value with
  | nil => exact Nat.le_refl value
  | cons c rest hypothesis =>
    rw [Nat.ofDigitChars_cons]
    have further := hypothesis (10 * value + (c.toNat - '0'.toNat))
    omega

/-- Digits on top of a value within the limit are read where the number they make is within it. -/
theorem magnitude_eq_ok_iff (within : value ≤ limit) :
    magnitude limit excess letters value = .ok number ↔
      (∀ c ∈ letters, c.isDigit = true) ∧ Nat.ofDigitChars 10 letters value = number ∧
        number ≤ limit := by
  induction letters generalizing value with
  | nil =>
    simp only [magnitude, Except.ok.injEq, List.not_mem_nil, false_implies, implies_true, true_and,
      Nat.ofDigitChars_nil]
    constructor
    · rintro rfl
      exact ⟨rfl, within⟩
    · exact And.left
  | cons c rest hypothesis =>
    rw [magnitude, List.forall_mem_cons, Nat.ofDigitChars_cons]
    cases read : digit? c with
    | none =>
      have other : c.isDigit ≠ true := fun isDigit => by
        simp [digit?_eq_some_iff.mpr ⟨isDigit, rfl⟩] at read
      simp [other]
    | some digit =>
      rcases digit?_eq_some_iff.mp read with ⟨isDigit, rfl⟩
      dsimp only
      split
      case isTrue above =>
        -- The digits after this one cannot bring the value back.
        have grown := le_ofDigitChars rest (10 * value + (c.toNat - '0'.toNat))
        simp only [reduceCtorEq, false_iff]
        rintro ⟨_, rfl, bounded⟩
        exact absurd (Nat.le_trans grown bounded) (Nat.not_le.mpr above)
      case isFalse bounded =>
        rw [hypothesis (Nat.not_lt.mp bounded)]
        simp [isDigit]

theorem digits_eq_ok_iff :
    digits limit excess letters = .ok number ↔
      letters ≠ [] ∧ (∀ c ∈ letters, c.isDigit = true) ∧
        Nat.ofDigitChars 10 letters 0 = number ∧ number ≤ limit := by
  cases letters with
  | nil => simp [digits]
  | cons c rest => simp [digits, magnitude_eq_ok_iff (Nat.zero_le limit)]

/-- The text is a number in decimal, after a plus sign or none and with any zeros in front. -/
def Decimal (word : String) (number : Nat) : Prop :=
  ∃ letters, (word.toList = letters ∨ word.toList = '+' :: letters) ∧ letters ≠ [] ∧
    (∀ c ∈ letters, c.isDigit = true) ∧ Nat.ofDigitChars 10 letters 0 = number

theorem toList_toString (number : Nat) : (toString number).toList = Nat.toDigits 10 number := by
  rw [Nat.toString_eq_repr, Nat.toList_repr]

theorem isDigit_of_mem_toString (member : c ∈ (toString number).toList) : c.isDigit = true := by
  rw [toList_toString] at member
  exact Nat.isDigit_of_mem_toDigits (by decide) (by decide) member

/-- A number as it is printed is one of its decimals. -/
theorem decimal_toString (number : Nat) : Decimal (toString number) number := by
  refine ⟨(toString number).toList, .inl rfl, ?_, fun c => isDigit_of_mem_toString, ?_⟩
  · rw [toList_toString]
    exact Nat.toDigits_ne_nil
  · rw [toList_toString]
    exact Nat.ofDigitChars_toDigits (by decide) (by decide)

theorem decimal_of_plus (plus : word.toList = '+' :: letters) :
    Decimal word number ↔ letters ≠ [] ∧ (∀ c ∈ letters, c.isDigit = true) ∧
      Nat.ofDigitChars 10 letters 0 = number := by
  constructor
  · rintro ⟨written, spelled | spelled, filled, all, worth⟩
    · rw [plus] at spelled
      exact absurd (all '+' (spelled ▸ List.mem_cons_self)) (by decide)
    · rw [plus, List.cons.injEq] at spelled
      rw [spelled.2]
      exact ⟨filled, all, worth⟩
  · exact fun ⟨filled, all, worth⟩ => ⟨letters, .inr plus, filled, all, worth⟩

theorem decimal_of_not_plus (other : ∀ rest, word.toList ≠ '+' :: rest) :
    Decimal word number ↔ word.toList ≠ [] ∧ (∀ c ∈ word.toList, c.isDigit = true) ∧
      Nat.ofDigitChars 10 word.toList 0 = number := by
  constructor
  · rintro ⟨written, rfl | plus, filled, all, worth⟩
    · exact ⟨filled, all, worth⟩
    · exact absurd plus (other written)
  · exact fun ⟨filled, all, worth⟩ => ⟨word.toList, .inl rfl, filled, all, worth⟩

theorem readNatural_eq_ok_iff :
    readNatural limit word = .ok number ↔ Decimal word number ∧ number ≤ limit := by
  rw [readNatural]
  split
  case h_1 empty => simp [decimal_of_not_plus, empty]
  case h_2 letters plus => simp only [decimal_of_plus plus, digits_eq_ok_iff, and_assoc]
  case h_3 notPlus => simp only [decimal_of_not_plus notPlus, digits_eq_ok_iff, and_assoc]

/-- A decimal is of one number only. -/
theorem Decimal.unique {other : Nat} (decimal : Decimal word number)
    (again : Decimal word other) : number = other := by
  have first := readNatural_eq_ok_iff.mpr ⟨decimal, Nat.le_max_left number other⟩
  have second := readNatural_eq_ok_iff.mpr ⟨again, Nat.le_max_right number other⟩
  exact Except.ok.inj (first.symm.trans second)

theorem toString_nat_inj {other : Nat} : toString number = toString other ↔ number = other :=
  ⟨fun same => (decimal_toString number).unique (same ▸ decimal_toString other), congrArg toString⟩

/-- A text with a minus sign in front is no decimal. -/
theorem not_decimal_of_minus (minus : word.toList = '-' :: letters) : ¬Decimal word number := by
  rw [decimal_of_not_plus (by simp [minus]), minus]
  rintro ⟨_, all, _⟩
  exact absurd (all '-' List.mem_cons_self) (by decide)

theorem toList_toString_negSucc (number : Nat) :
    (toString (Int.negSucc number)).toList = '-' :: (toString (number + 1)).toList := by
  change ("-" ++ toString (number + 1)).toList = _
  rw [String.toList_append]
  rfl

theorem toString_int_inj {integer other : Int} :
    toString integer = toString other ↔ integer = other := by
  have apart (first second : Nat) : toString (Int.ofNat first) ≠ toString (Int.negSucc second) := by
    intro same
    have minus := same ▸ toList_toString_negSucc second
    exact not_decimal_of_minus minus (decimal_toString first)
  refine ⟨fun same => ?_, congrArg toString⟩
  cases integer <;> cases other
  case ofNat.ofNat first second => exact congrArg Int.ofNat (toString_nat_inj.mp same)
  case ofNat.negSucc first second => exact absurd same (apart first second)
  case negSucc.ofNat first second => exact absurd same.symm (apart second first)
  case negSucc.negSucc first second =>
    have letters := congrArg String.toList same
    rw [toList_toString_negSucc, toList_toString_negSucc, List.cons.injEq, String.toList_inj,
      toString_nat_inj, Nat.add_right_cancel_iff] at letters
    rw [letters.2]

/-- An integer is a decimal, or digits after a minus sign. -/
theorem readInteger_eq_ok_iff {integer : Int} :
    readInteger limit word = .ok integer ↔
      (∃ number, Decimal word number ∧ number ≤ limit ∧ (number : Int) = integer) ∨
        ∃ letters number, word.toList = '-' :: letters ∧
          digits (limit + 1) .tooSmall letters = .ok number ∧ -(number : Int) = integer := by
  rw [readInteger]
  split
  case h_1 empty => simp [decimal_of_not_plus, empty]
  case h_2 letters plus =>
    simp [map_eq_ok_iff, decimal_of_plus plus, digits_eq_ok_iff, plus, and_assoc]
  case h_3 letters minus =>
    cases read : digits (limit + 1) .tooSmall letters <;>
      simp [Except.map, Functor.map, not_decimal_of_minus minus, minus, read]
  case h_4 notPlus notMinus =>
    have noMinus : ∀ letters, word.toList ≠ '-' :: letters := notMinus
    simp [map_eq_ok_iff, decimal_of_not_plus notPlus, digits_eq_ok_iff, noMinus, and_assoc]

theorem amount?_eq_some_iff {amount : Int} :
    amount? word = some amount ↔ readInteger maxAmount word = .ok amount := by
  rw [amount?]
  cases readInteger maxAmount word <;> simp [Except.toOption]

/-- The positive amounts are the decimals of a positive number that is no larger than an amount can
be; a minus sign never makes a positive number. -/
theorem amount?_eq_some_iff_of_pos {amount : Int} (positive : 0 < amount) :
    amount? word = some amount ↔
      ∃ number, Decimal word number ∧ number ≤ maxAmount ∧ (number : Int) = amount := by
  rw [amount?_eq_some_iff, readInteger_eq_ok_iff, or_iff_left]
  rintro ⟨_, number, _, _, negative⟩
  omega

theorem count32?_eq_some_iff :
    count32? word = some number ↔ Decimal word number ∧ number ≤ maxWord32 := by
  rw [count32?, ← readNatural_eq_ok_iff]
  cases readNatural maxWord32 word <;> simp [Except.toOption]

end Text

end Holdem
