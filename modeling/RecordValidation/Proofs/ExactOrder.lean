import Mathlib.Algebra.Order.Field.Power
import Mathlib.Algebra.Order.Field.Rat
import Mathlib.Order.WithBot
import Mathlib.Tactic.NormNum
import RecordValidation.Value

/-!
# The exact order of quantities

What can be ordered is a rational number or an infinity: `Quantity.extended?` says which. Quantities
are compared the way these are (`Quantity.isBelow_iff`, `Quantity.isAbove_iff`), whatever their
exponents, and a quantity that is none of them is neither below nor above any other.

A number of the binary64 format counts as integral exactly if what it stands for is an integer
(`Binary64.isIntegral_iff`).
-/

namespace RecordValidation

/-- A rational number or an infinity. -/
abbrev Extended := WithBot (WithTop ℚ)

namespace Extended

/-- A rational number among the extended ones. -/
def finite (x : ℚ) : Extended := ((x : WithTop ℚ) : WithBot (WithTop ℚ))

/-- The infinity on one side. -/
def infinite (negative : Bool) : Extended := if negative then ⊥ else ⊤

/-- Rational numbers are ordered among the extended ones as they are by themselves. -/
@[simp] theorem finite_lt_finite {x y : ℚ} : finite x < finite y ↔ x < y := by
  rw [finite, finite, WithBot.coe_lt_coe, WithTop.coe_lt_coe]

/-- Among the extended ones, a rational number is at most another one exactly if it is. -/
@[simp] theorem finite_le_finite {x y : ℚ} : finite x ≤ finite y ↔ x ≤ y := by
  rw [finite, finite, WithBot.coe_le_coe, WithTop.coe_le_coe]

/-- Rational numbers are equal among the extended ones only if they are equal. -/
@[simp] theorem finite_inj {x y : ℚ} : finite x = finite y ↔ x = y := by
  rw [finite, finite, WithBot.coe_inj, WithTop.coe_inj]

/-- The lower infinity is below every rational number. -/
@[simp] theorem bot_lt_finite (x : ℚ) : ⊥ < finite x := WithBot.bot_lt_coe _

/-- The upper infinity is above every rational number. -/
@[simp] theorem finite_lt_top (x : ℚ) : finite x < ⊤ :=
  WithBot.coe_lt_coe.2 (WithTop.coe_lt_top x)

/-- No rational number is an infinity. -/
theorem infinite_ne_finite (negative : Bool) (x : ℚ) : infinite negative ≠ finite x := by
  cases negative with
  | true => exact (bot_lt_finite x).ne
  | false => exact (finite_lt_top x).ne'

end Extended

namespace Quantity

/-- What a quantity is in the order of rational numbers and infinities, if it is anything there. -/
def extended? : Quantity → Option Extended
  | .unordered => none
  | .infinite negative => some (Extended.infinite negative)
  | .dyadic multiple exponent => some (Extended.finite (multiple * 2 ^ exponent))

/-- An integer is itself. -/
@[simp] theorem extended?_ofInt (n : Int) : (ofInt n).extended? = some (Extended.finite n) := by
  simp [ofInt, extended?]

/-- Two multiples of powers of two are compared as the rational numbers they are: at the smaller of
the two exponents both are integers. -/
theorem compareDyadic_eq_lt_iff (m d n e : Int) :
    compareDyadic m d n e = .lt ↔ (m : ℚ) * 2 ^ d < n * 2 ^ e := by
  have scaled (k f : Int) (least : min d e ≤ f) :
      (k : ℚ) * 2 ^ f = ((k * Int.pow 2 (f - min d e).toNat : Int) : ℚ) * 2 ^ min d e := by
    have split : f = ((f - min d e).toNat : Int) + min d e := by omega
    have power : Int.pow 2 (f - min d e).toNat = 2 ^ (f - min d e).toNat := rfl
    rw [power]
    push_cast
    rw [mul_assoc, ← zpow_natCast, ← zpow_add₀ (by norm_num), ← split]
  have positive : (0 : ℚ) < 2 ^ min d e := zpow_pos (by norm_num) _
  rw [scaled m d (min_le_left d e), scaled n e (min_le_right d e),
    mul_lt_mul_iff_left₀ positive, Int.cast_lt, compareDyadic, compare_lt_iff_lt]

/-- Exchanging what is compared exchanges the answer. Dyadic numbers are brought to the smaller of
their exponents, which is the same one from either side. -/
theorem compare?_swap (a b : Quantity) : (compare? a b).map Ordering.swap = compare? b a := by
  cases a with
  | unordered => cases b <;> rfl
  | infinite negative =>
    cases b with
    | infinite other => cases negative <;> cases other <;> rfl
    | _ => cases negative <;> rfl
  | dyadic m d =>
    cases b with
    | unordered => rfl
    | infinite negative => cases negative <;> rfl
    | dyadic n e =>
      simp only [compare?, compareDyadic, Option.map_some, min_comm e d, Int.compare_swap]

/-- A quantity is below another exactly if both can be ordered and it comes before the other. There
is a case for each pair of kinds; only for two dyadic numbers is there anything to compute. -/
theorem isBelow_iff (a b : Quantity) :
    a.isBelow b = true ↔ ∃ x ∈ a.extended?, ∃ y ∈ b.extended?, x < y := by
  rw [isBelow, beq_iff_eq]
  cases a with
  | unordered => simp [compare?, extended?]
  | infinite negative =>
    cases b with
    | unordered => simp [compare?, extended?]
    | infinite other =>
      cases negative <;> cases other <;> simp [compare?, extended?, Extended.infinite]
    | dyadic n e => cases negative <;> simp [compare?, extended?, Extended.infinite]
  | dyadic m d =>
    cases b with
    | unordered => simp [compare?, extended?]
    | infinite negative => cases negative <;> simp [compare?, extended?, Extended.infinite]
    | dyadic n e => simp [compare?, extended?, compareDyadic_eq_lt_iff]

/-- A quantity is above another exactly if both can be ordered and it comes after the other. Being
above is being below from the other side, so nothing has to be compared a second time. -/
theorem isAbove_iff (a b : Quantity) :
    a.isAbove b = true ↔ ∃ x ∈ a.extended?, ∃ y ∈ b.extended?, y < x := by
  have exchanged : a.isAbove b = b.isBelow a := by
    rw [isAbove, isBelow, ← compare?_swap a b]
    cases compare? a b with
    | none => rfl
    | some order => cases order <;> rfl
  rw [exchanged, isBelow_iff]
  constructor
  · rintro ⟨y, isY, x, isX, less⟩
    exact ⟨x, isX, y, isY, less⟩
  · rintro ⟨x, isX, y, isY, less⟩
    exact ⟨y, isY, x, isX, less⟩

end Quantity

namespace Binary64

/-- A number equals an integer exactly if the rational number it stands for does. With an exponent
that is not negative every number is an integer. Otherwise it is one if the power of two divides the
significand, and the integer is the quotient. -/
theorem toInt?_eq_some_iff (number : Binary64) (k : Int) :
    number.toInt? = some k ↔ number.quantity.extended? = some (Extended.finite k) := by
  cases number with
  | nan => simp [toInt?, quantity, Quantity.extended?]
  | infinite negative =>
    have apart := Extended.infinite_ne_finite negative k
    simp [toInt?, quantity, Quantity.extended?, apart]
  | finite negative significand exponent =>
    rw [quantity, Quantity.extended?, Option.some_inj, Extended.finite_inj, toInt?]
    by_cases whole : 0 ≤ exponent
    · obtain ⟨places, rfl⟩ := Int.eq_ofNat_of_zero_le whole
      have power : Nat.pow 2 places = 2 ^ places := rfl
      rw [if_pos whole, zpow_natCast, Int.toNat_natCast, power]
      cases negative with
      | true => simp; norm_cast
      | false => simp; norm_cast
    · obtain ⟨places, rfl⟩ : ∃ places : Nat, exponent = -places :=
        ⟨(-exponent).toNat, by omega⟩
      have positive : (0 : ℚ) < 2 ^ places := by positivity
      have power : Nat.pow 2 places = 2 ^ places := rfl
      rw [if_neg whole, zpow_neg, zpow_natCast, ← div_eq_mul_inv, div_eq_iff positive.ne', neg_neg,
        Int.toNat_natCast, power]
      by_cases even : significand % 2 ^ places = 0
      · obtain ⟨quotient, rfl⟩ := Nat.dvd_of_mod_eq_zero even
        have cancels (a b : Int) : a = b ↔ (2 ^ places * a : ℚ) = b * 2 ^ places := by
          rw [mul_comm, mul_left_inj' positive.ne', Int.cast_inj]
        rw [if_pos even, Nat.mul_div_cancel_left _ (by positivity)]
        cases negative with
        | true => simpa using cancels (-quotient) k
        | false => simpa using cancels quotient k
      · rw [if_neg even]
        constructor
        · nofun
        · intro equal
          have divides : (2 ^ places : Int) ∣ if negative then -significand else significand :=
            ⟨k, by rw [mul_comm]; exact_mod_cast equal⟩
          have dividesSelf : (2 ^ places : Int) ∣ significand := by
            cases negative with
            | true => exact Int.dvd_neg.1 divides
            | false => exact divides
          exact absurd (Nat.mod_eq_zero_of_dvd (by exact_mod_cast dividesSelf)) even

/-- A number counts as integral exactly if what it stands for is an integer. -/
theorem isIntegral_iff (number : Binary64) :
    number.isIntegral = true ↔
      ∃ k : Int, number.quantity.extended? = some (Extended.finite k) := by
  simp only [isIntegral, Option.isSome_iff_exists, toInt?_eq_some_iff]

end Binary64

end RecordValidation
