import Holdem.Chips
import Holdem.Text.Integer

/-!
# Sums of chips

What is kept of a sum stands for it: a further sum comes out the same whether it is made with the
sum or with what was kept. A balance of exact sums is therefore a balance of kept ones up to
wrapping, and it is the same balance wherever the sums fit. An arithmetic covers the amounts up to a
bound when all of them fit; exact sums cover everything, and words cover all amounts that can be
written down.
-/

namespace Holdem.Arithmetic

variable {arithmetic : Arithmetic} {bound other amount sum : Int}

@[simp]
theorem wrap_exact (sum : Int) : exact.wrap sum = sum := rfl

theorem wrap_wrap_add (arithmetic : Arithmetic) (sum amount : Int) :
    arithmetic.wrap (arithmetic.wrap sum + amount) = arithmetic.wrap (sum + amount) := by
  cases arithmetic with
  | exact => rfl
  | wrapping => simp only [wrap, BitVec.toInt_ofInt, Int.bmod_add_bmod]

/-- Amounts that are the same up to wrapping stay so when the same is added to both. -/
theorem wrap_add_congr (same : arithmetic.wrap sum = arithmetic.wrap other) (amount : Int) :
    arithmetic.wrap (sum + amount) = arithmetic.wrap (other + amount) := by
  rw [← arithmetic.wrap_wrap_add sum, same, arithmetic.wrap_wrap_add]

/-- A sum of which everything is kept. -/
def Fits (arithmetic : Arithmetic) (sum : Int) : Prop := arithmetic.wrap sum = sum

theorem fits_exact (sum : Int) : exact.Fits sum := rfl

theorem fits_wrap (arithmetic : Arithmetic) (sum : Int) :
    arithmetic.Fits (arithmetic.wrap sum) := by
  simpa [Fits] using arithmetic.wrap_wrap_add sum 0

/-- What a word of 128 bits holds is kept. -/
theorem fits_of_bounds (arithmetic : Arithmetic) {amount : Int}
    (lower : -(Text.maxAmount : Int) - 1 ≤ amount) (upper : amount ≤ Text.maxAmount) :
    arithmetic.Fits amount := by
  cases arithmetic with
  | exact => rfl
  | wrapping =>
    simp only [Text.maxAmount] at lower upper
    exact BitVec.toInt_ofInt_eq_self (by decide) (by lia) (by lia)

theorem fits_zero (arithmetic : Arithmetic) : arithmetic.Fits 0 :=
  arithmetic.fits_of_bounds (by decide) (by decide)

/-- All amounts from nothing to the bound fit. -/
def Covers (arithmetic : Arithmetic) (bound : Int) : Prop :=
  ∀ amount, 0 ≤ amount → amount ≤ bound → arithmetic.Fits amount

theorem covers_exact (bound : Int) : exact.Covers bound := fun amount _ _ => fits_exact amount

theorem Covers.mono (covers : arithmetic.Covers bound) (less : other ≤ bound) :
    arithmetic.Covers other :=
  fun amount nonneg within => covers amount nonneg (Int.le_trans within less)

/-- Whatever is smaller than an amount that fits does so too. -/
theorem Fits.covers (fits : arithmetic.Fits bound) : arithmetic.Covers bound := by
  intro amount nonneg within
  cases arithmetic with
  | exact => exact fits_exact amount
  | wrapping =>
    have below := (BitVec.ofInt 128 bound).toInt_lt
    rw [show (BitVec.ofInt 128 bound).toInt = bound from fits] at below
    exact BitVec.toInt_ofInt_eq_self (by decide) (by lia) (by lia)

end Holdem.Arithmetic
