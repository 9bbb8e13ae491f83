import Mathlib.Tactic.Ring
import RecordValidation.Proofs.ExactOrder

/-!
# The binary64 number nearest to an integer

An integer of the format is a significand of 53 bits times a power of two in reach (`Represents`).
`IsNearest` says what an integer is rounded to: an integer of the format to which none of the format
is closer, or an infinity if the integer is beyond them all. All that is needed of rounding follows
from that: which integers it leaves as they are (`IsNearest.eq_iff`), and that it takes none over an
integer of the format (`IsNearest.le_of_le`, `IsNearest.ge_of_ge`).

`Binary64.nearest` is what conversions give for an integer, and `isNearest_nearest` says that it is
the nearest number. With fewer than 54 bits an integer keeps them all. Any other is rounded at the
exponent at which 53 bits are left of it (`ofRatio_of_large`). From half way between the greatest
number and the next power of two on, what is given is an infinity (`ofInt?_eq_none_iff`).
-/

namespace RecordValidation.Binary64

/-- The number nearest to an integer, an infinity if the integer is too large for a finite one. -/
def nearest (n : Int) : Binary64 := ofRatio (n < 0) n.natAbs 1

/-- A natural number is a significand of 53 bits times a power of two in reach. -/
def Represents (magnitude : Nat) : Prop :=
  ∃ significand exponent : Nat, significand < 2 ^ 53 ∧ (exponent : Int) ≤ maxExponent ∧
    significand * 2 ^ exponent = magnitude

/-! ## Rounding a quotient -/

/-- A quotient without a remainder is not rounded. -/
theorem roundQuotient_mul (quotient : Nat) {denominator : Nat} (positive : 0 < denominator) :
    roundQuotient (quotient * denominator) denominator = quotient := by
  simp [roundQuotient, Nat.mul_div_cancel _ positive, positive]

/-- A quotient is rounded to the closer of the two natural numbers around it. Which one it takes at
exactly half way does not matter to what is said here. -/
theorem roundQuotient_cases (numerator denominator : Nat) :
    roundQuotient numerator denominator = numerator / denominator ∧
        2 * (numerator % denominator) ≤ denominator ∨
      roundQuotient numerator denominator = numerator / denominator + 1 ∧
        denominator ≤ 2 * (numerator % denominator) := by
  unfold roundQuotient
  dsimp only
  split
  · exact .inl ⟨rfl, by omega⟩
  · split
    · exact .inr ⟨rfl, by omega⟩
    · omega

/-- No multiple of the denominator is closer to the numerator than the rounded quotient of it. A
multiple lies on one side or the other of the numerator, and the rounded quotient is at most as far
as the nearer of the two multiples around it. -/
theorem roundQuotient_closest (numerator : Nat) {denominator : Nat} (positive : 0 < denominator)
    (multiple : Nat) :
    (((roundQuotient numerator denominator * denominator : Nat) : Int) - numerator).natAbs ≤
      (((multiple * denominator : Nat) : Int) - numerator).natAbs := by
  have parts := Nat.div_add_mod' numerator denominator
  have less := Nat.mod_lt numerator positive
  have sides : multiple * denominator ≤ numerator / denominator * denominator ∨
      numerator / denominator * denominator + denominator ≤ multiple * denominator := by
    rcases Nat.lt_or_ge (numerator / denominator) multiple with above | below
    · right
      rw [← Nat.succ_mul]
      exact Nat.mul_le_mul_right denominator above
    · exact .inl (Nat.mul_le_mul_right denominator below)
  have nearer := roundQuotient_cases numerator denominator
  generalize roundQuotient numerator denominator = rounded at nearer ⊢
  generalize numerator / denominator = quotient at parts sides nearer
  generalize numerator % denominator = rest at parts less nearer
  rcases nearer with ⟨rfl, near⟩ | ⟨rfl, near⟩
  · omega
  · rw [Nat.succ_mul]
    omega

/-! ## Scaling an integer to 53 bits -/

/-- To divide by a power of two is to multiply the denominator. -/
theorem scale_natCast (p q k : Nat) : scale p q k = (p, q * 2 ^ k) := by
  have power : Nat.pow 2 k = 2 ^ k := rfl
  rw [scale, if_pos (Int.natCast_nonneg k), Int.toNat_natCast, power]

/-- To multiply by a power of two is to multiply the numerator. -/
theorem scale_neg_natCast (p q k : Nat) : scale p q (-k) = (p * 2 ^ k, q) := by
  have power : Nat.pow 2 k = 2 ^ k := rfl
  by_cases zero : k = 0
  · subst zero
    simp [scale]
  · rw [scale, if_neg (by omega), neg_neg, Int.toNat_natCast, power]

section

variable {magnitude : Nat} (positive : magnitude ≠ 0)

include positive

/-- Scaled by the place of its first bit, less 52, a positive integer has 53 bits before the point.
Multiplied by a power of two if it has fewer bits, it is exact, and with more of them the power goes
to the denominator. -/
theorem scale_log2 :
    ∃ p q, scale magnitude 1 ((magnitude.log2 : Int) - 52) = (p, q) ∧ 0 < q ∧
      2 ^ 52 * q ≤ p ∧ p < 2 ^ 53 * q := by
  have low := Nat.log2_self_le positive
  have high : magnitude < 2 ^ (magnitude.log2 + 1) := Nat.lt_log2_self
  generalize magnitude.log2 = place at low high ⊢
  by_cases small : place ≤ 52
  · obtain ⟨k, reach⟩ : ∃ k, place + k = 52 := ⟨52 - place, by omega⟩
    have negated : (place : Int) - 52 = -k := by omega
    refine ⟨magnitude * 2 ^ k, 1, by rw [negated, scale_neg_natCast], Nat.one_pos, ?_, ?_⟩
    · calc 2 ^ 52 * 1 = 2 ^ place * 2 ^ k := by rw [← Nat.pow_add, reach, mul_one]
        _ ≤ magnitude * 2 ^ k := Nat.mul_le_mul_right _ low
    · calc magnitude * 2 ^ k < 2 ^ (place + 1) * 2 ^ k :=
            Nat.mul_lt_mul_of_pos_right high (Nat.two_pow_pos k)
        _ = 2 ^ 53 * 1 := by rw [← Nat.pow_add, add_right_comm, reach, mul_one]
  · obtain ⟨k, reach⟩ : ∃ k, place = 52 + k := ⟨place - 52, by omega⟩
    have difference : (place : Int) - 52 = k := by omega
    refine ⟨magnitude, 1 * 2 ^ k, by rw [difference, scale_natCast], by positivity, ?_, ?_⟩
    · rwa [one_mul, ← Nat.pow_add, ← reach]
    · rwa [one_mul, ← Nat.pow_add, show 53 + k = place + 1 by omega]

/-- A positive integer is rounded at the exponent that is 52 less than the place of its first bit.
The guess for the exponent is right at once, since an integer has a one for its denominator, and it
is never below the least exponent. -/
theorem exponentFor_one : exponentFor magnitude 1 = (magnitude.log2 : Int) - 52 := by
  obtain ⟨p, q, scaled, positiveQ, low, -⟩ := scale_log2 positive
  have one : Nat.log2 1 = 0 := by decide
  have guess : (magnitude.log2 : Int) - (Nat.log2 1 : Int) - 52 = magnitude.log2 - 52 := by
    rw [one]
    omega
  have wide : ¬p / q < Nat.pow 2 52 := not_lt.2 ((Nat.le_div_iff_mul_le positiveQ).2 low)
  have inReach : minExponent ≤ (magnitude.log2 : Int) - 52 := by
    unfold minExponent
    omega
  rw [exponentFor]
  simp only [guess, scaled, if_neg wide, max_eq_right inReach]

/-- An integer of at most 53 bits keeps all of them. Nothing is rounded away, as the scaled integer
is a whole number. -/
theorem ofRatio_of_small (negative : Bool) (small : magnitude < 2 ^ 53) :
    ∃ k : Nat, ofRatio negative magnitude 1 = .finite negative (magnitude * 2 ^ k) (-k) := by
  have place : magnitude.log2 < 53 := (Nat.log2_lt positive).2 small
  obtain ⟨k, reach⟩ : ∃ k, magnitude.log2 + k = 52 := ⟨52 - magnitude.log2, by omega⟩
  have exponent : exponentFor magnitude 1 = -(k : Int) := by
    rw [exponentFor_one positive]
    omega
  have unrounded : roundQuotient (magnitude * 2 ^ k) 1 = magnitude * 2 ^ k := by
    simpa using roundQuotient_mul (magnitude * 2 ^ k) Nat.one_pos
  have bits : magnitude * 2 ^ k < 2 ^ 53 :=
    calc magnitude * 2 ^ k < 2 ^ (magnitude.log2 + 1) * 2 ^ k :=
          Nat.mul_lt_mul_of_pos_right Nat.lt_log2_self (Nat.two_pow_pos k)
      _ = 2 ^ 53 := by rw [← Nat.pow_add, add_right_comm, reach]
  have notCarried : magnitude * 2 ^ k ≠ Nat.pow 2 53 := bits.ne
  have finite : ¬maxExponent < -(k : Int) := by
    unfold maxExponent
    omega
  refine ⟨k, ?_⟩
  rw [ofRatio, if_neg positive]
  simp only [exponent, scale_neg_natCast, unrounded, if_neg notCarried, if_neg finite]

end

/-- A significand of 53 bits that makes an integer of more bits needs at least the exponent that the
integer has beyond them. -/
theorem le_exponent_of_large {significand exponent k : Nat} (bits : significand < 2 ^ 53)
    (large : 2 ^ (52 + k) ≤ significand * 2 ^ exponent) : k ≤ exponent := by
  by_contra less
  have short : significand * 2 ^ exponent < 2 ^ (52 + k) :=
    calc significand * 2 ^ exponent < 2 ^ 53 * 2 ^ exponent :=
          Nat.mul_lt_mul_of_pos_right bits (Nat.two_pow_pos exponent)
      _ = 2 ^ (53 + exponent) := (Nat.pow_add ..).symm
      _ ≤ 2 ^ (52 + k) := Nat.pow_le_pow_right (by decide) (by omega)
  omega

/-- What is known of the significand and the exponent to which an integer of more than 53 bits is
rounded: the significand has its full 53 bits, the exponent spans the rest of the integer, and no
integer of the format is closer. -/
structure RoundsTo (magnitude significand exponent : Nat) : Prop where
  full : 2 ^ 52 ≤ significand
  bits : significand < 2 ^ 53
  spans : magnitude < 2 ^ (53 + exponent)
  closest : ∀ other, Represents other →
    (((significand * 2 ^ exponent : Nat) : Int) - magnitude).natAbs ≤
      ((other : Int) - magnitude).natAbs

/-- No integer of the format is closer to an integer than what is left of it when it is rounded at
an exponent at which it has 53 bits. Another significand at a lower exponent makes less than the
least of 53 bits does at this one. -/
theorem closest_at_exponent {magnitude k other : Nat} (first : 2 ^ (52 + k) ≤ magnitude)
    (represents : Represents other) :
    (((roundQuotient magnitude (2 ^ k) * 2 ^ k : Nat) : Int) - magnitude).natAbs ≤
      ((other : Int) - magnitude).natAbs := by
  have closest := roundQuotient_closest magnitude (Nat.two_pow_pos k)
  obtain ⟨own, power, bits, -, rfl⟩ := represents
  by_cases reach : 2 ^ (52 + k) ≤ own * 2 ^ power
  · obtain ⟨more, rfl⟩ := Nat.exists_eq_add_of_le (le_exponent_of_large bits reach)
    have multiple : own * 2 ^ (k + more) = own * 2 ^ more * 2 ^ k := by ring
    rw [multiple]
    exact closest (own * 2 ^ more)
  · have least := closest (2 ^ 52)
    rw [← Nat.pow_add] at least
    omega

/-- An integer of more than 53 bits is rounded to 53 of them, unless the exponent is out of reach.
Rounding up may carry over to one bit more, which is given up again by raising the exponent; it is
then a zero. -/
theorem ofRatio_of_large {magnitude : Nat} (negative : Bool) (large : 2 ^ 53 ≤ magnitude) :
    ∃ significand exponent : Nat, RoundsTo magnitude significand exponent ∧
      ofRatio negative magnitude 1 =
        if maxExponent < exponent then .infinite negative
        else .finite negative significand exponent := by
  have positive : magnitude ≠ 0 := by
    rintro rfl
    exact absurd large (by decide)
  have place : 53 ≤ magnitude.log2 := (Nat.le_log2 positive).2 large
  obtain ⟨k, reach⟩ : ∃ k, magnitude.log2 = 52 + k := ⟨magnitude.log2 - 52, by omega⟩
  have exponent : exponentFor magnitude 1 = k := by
    rw [exponentFor_one positive]
    omega
  have first : 2 ^ (52 + k) ≤ magnitude := reach ▸ Nat.log2_self_le positive
  have last : magnitude < 2 ^ (53 + k) := by
    rw [show 53 + k = magnitude.log2 + 1 by omega]
    exact Nat.lt_log2_self
  have low : 2 ^ 52 ≤ magnitude / 2 ^ k := by
    rwa [Nat.le_div_iff_mul_le (Nat.two_pow_pos k), ← Nat.pow_add]
  have high : magnitude / 2 ^ k < 2 ^ 53 := by
    rwa [Nat.div_lt_iff_lt_mul (Nat.two_pow_pos k), ← Nat.pow_add]
  have rounded := roundQuotient_cases magnitude (2 ^ k)
  rw [ofRatio, if_neg positive]
  simp only [exponent, scale_natCast, one_mul]
  by_cases carried : roundQuotient magnitude (2 ^ k) = Nat.pow 2 53
  · refine ⟨2 ^ 52, k + 1, ⟨le_rfl, by decide, ?spans, fun other represents => ?closest⟩, ?_⟩
    case spans => exact last.trans (Nat.pow_lt_pow_right (by decide) (by omega))
    case closest =>
      have full : roundQuotient magnitude (2 ^ k) = 2 ^ 53 := carried
      have same : 2 ^ 52 * 2 ^ (k + 1) = roundQuotient magnitude (2 ^ k) * 2 ^ k := by
        rw [full]
        ring
      rw [same]
      exact closest_at_exponent first represents
    simp only [if_pos carried]
    rfl
  · have uncarried : roundQuotient magnitude (2 ^ k) ≠ 2 ^ 53 := carried
    refine ⟨roundQuotient magnitude (2 ^ k), k, ⟨by omega, by omega, last, ?_⟩, ?_⟩
    · exact fun other represents => closest_at_exponent first represents
    · simp only [if_neg carried]

/-- If the exponent is out of reach, the integer is beyond all of the format. Were there an integer
of the format at or above it, that would need the same exponent, which is out of reach. -/
theorem RoundsTo.beyond {magnitude significand exponent other : Nat}
    (rounds : RoundsTo magnitude significand exponent) (out : maxExponent < exponent)
    (represents : Represents other) : other < magnitude := by
  have nearest := rounds.closest other represents
  have less : other < significand * 2 ^ exponent := by
    obtain ⟨own, power, bits, inReach, rfl⟩ := represents
    by_contra reach
    have large : 2 ^ (52 + exponent) ≤ own * 2 ^ power := by
      rw [Nat.pow_add]
      exact (Nat.mul_le_mul_right _ rounds.full).trans (not_lt.1 reach)
    have above := le_exponent_of_large bits large
    omega
  omega

/-- An integer of more than 1024 bits is out of reach. Its exponent is at least as great as the
integer is long, less the bits that are kept. -/
theorem ofRatio_of_huge {magnitude places : Nat} (negative : Bool) (far : 1024 ≤ places)
    (huge : 2 ^ places ≤ magnitude) : ofRatio negative magnitude 1 = .infinite negative := by
  have large : 2 ^ 53 ≤ magnitude :=
    (Nat.pow_le_pow_right Nat.two_pos (by omega : 53 ≤ places)).trans huge
  obtain ⟨significand, exponent, rounds, rounded⟩ := ofRatio_of_large negative large
  have reach : places < 53 + exponent :=
    (Nat.pow_lt_pow_iff_right Nat.one_lt_two).1 (huge.trans_lt rounds.spans)
  have beyond : maxExponent < exponent := by
    unfold maxExponent
    omega
  rw [rounded, if_pos beyond]

/-! ## Integers beyond the greatest number -/

/-- The least size at which an integer is too large for a finite number: half way from the greatest
one to the power of two above it. -/
def overflowThreshold : Nat := 2 ^ 1024 - 2 ^ 970

/-- The threshold and the powers of two around it are multiples of half a unit in the last place of
the greatest number. With these as multiples of one number, what is compared are small factors, and
no power of two has to be computed again. -/
theorem exists_halfUnit : ∃ half, 0 < half ∧ overflowThreshold = (2 ^ 54 - 1) * half ∧
    2 ^ 971 = 2 * half ∧ 2 ^ 972 = 4 * half ∧ 2 ^ 1023 = 2 ^ 53 * half ∧
    2 ^ 1024 = 2 ^ 54 * half :=
  ⟨2 ^ 970, Nat.two_pow_pos 970, by decide +kernel, by decide +kernel, by decide +kernel,
    by decide +kernel, by decide +kernel⟩

/-- Half way to an even neighbour above it, a quotient is rounded up. An odd quotient has an even
one above it, and ties go to the even one. -/
theorem roundQuotient_of_half {numerator denominator : Nat}
    (odd : numerator / denominator % 2 = 1) (half : denominator ≤ 2 * (numerator % denominator)) :
    roundQuotient numerator denominator = numerator / denominator + 1 := by
  unfold roundQuotient
  simp only [if_neg (not_lt.2 half), odd, ite_self]

/-- From the threshold on, an integer below the next power of two is rounded to that power, which is
out of reach. It has 1024 bits, of which the first 53 are ones, so rounding up carries over to the
next power. -/
theorem ofRatio_of_halfway {magnitude : Nat} (negative : Bool)
    (atLeast : overflowThreshold ≤ magnitude) (below : magnitude < 2 ^ 1024) :
    ofRatio negative magnitude 1 = .infinite negative := by
  obtain ⟨half, positive, threshold, unit, -, least, next⟩ := exists_halfUnit
  have given : magnitude ≠ 0 := by omega
  have place : magnitude.log2 = 1023 := by
    have low : 1023 ≤ magnitude.log2 := (Nat.le_log2 given).2 (by omega)
    have high : magnitude.log2 < 1024 := by
      by_contra huge
      have beyond := Nat.pow_le_pow_right Nat.two_pos (not_lt.1 huge)
      have own := Nat.log2_self_le given
      omega
    omega
  have exponent : exponentFor magnitude 1 = (971 : Nat) := by
    rw [exponentFor_one given, place]
    rfl
  have quotient : magnitude / 2 ^ 971 = 2 ^ 53 - 1 := by
    rw [unit]
    apply Nat.div_eq_of_lt_le
    · omega
    · omega
  have remainder : 2 ^ 971 ≤ 2 * (magnitude % 2 ^ 971) := by
    have parts := Nat.div_add_mod magnitude (2 ^ 971)
    rw [quotient] at parts
    rw [unit] at parts ⊢
    omega
  -- The quotient is the greatest significand, which is odd, so that half a unit more is rounded up.
  have carried : roundQuotient magnitude (2 ^ 971) = Nat.pow 2 53 := by
    rw [roundQuotient_of_half (by rw [quotient]; decide) remainder, quotient]
    rfl
  rw [ofRatio, if_neg given]
  simp only [exponent, scale_natCast, one_mul, carried, if_true]
  rfl

/-- The number nearest to an integer is infinite exactly from the threshold on.

Proof: rounding to an exponent out of reach makes a power of two beyond the threshold, and the
greatest number is no closer to the integer than that. -/
theorem exists_ofRatio_eq_infinite_iff (negative : Bool) (magnitude : Nat) :
    (∃ sign, ofRatio negative magnitude 1 = .infinite sign) ↔ overflowThreshold ≤ magnitude := by
  obtain ⟨half, positive, threshold, unit, units, -, next⟩ := exists_halfUnit
  constructor
  · rintro ⟨sign, infinite⟩
    have large : 2 ^ 53 ≤ magnitude := by
      by_contra small
      by_cases zero : magnitude = 0
      · subst zero
        cases infinite
      · obtain ⟨k, finite⟩ := ofRatio_of_small zero negative (not_le.1 small)
        rw [finite] at infinite
        cases infinite
    obtain ⟨significand, exponent, rounds, rounded⟩ := ofRatio_of_large negative large
    have out : maxExponent < exponent := by
      by_contra inReach
      rw [rounded, if_neg inReach] at infinite
      cases infinite
    have reach : 972 ≤ exponent := by
      unfold maxExponent at out
      omega
    have beyond := Nat.mul_le_mul rounds.full (Nat.pow_le_pow_right Nat.two_pos reach)
    have greatest : Represents ((2 ^ 53 - 1) * 2 ^ 971) := ⟨_, _, by decide, by decide, rfl⟩
    have noCloser := rounds.closest _ greatest
    rw [unit] at noCloser
    omega
  · intro atLeast
    rcases Nat.lt_or_ge magnitude (2 ^ 1024) with below | huge
    · exact ⟨negative, ofRatio_of_halfway negative atLeast below⟩
    · exact ⟨negative, ofRatio_of_huge negative le_rfl huge⟩

/-- An integer is too large to be converted exactly from the threshold on. -/
theorem ofInt?_eq_none_iff (n : Int) : ofInt? n = none ↔ overflowThreshold ≤ n.natAbs := by
  rw [← exists_ofRatio_eq_infinite_iff (n < 0), ofInt?]
  cases ofRatio (n < 0) n.natAbs 1 <;> simp

/-! ## The nearest number in the order -/

/-- An integer of at most 53 bits is of the format, and so is the least one that has more. -/
theorem represents_of_le {magnitude : Nat} (small : magnitude ≤ 2 ^ 53) : Represents magnitude := by
  rcases Nat.lt_or_eq_of_le small with less | rfl
  · exact ⟨magnitude, 0, less, by decide, by simp⟩
  · exact ⟨2 ^ 52, 1, by decide, by decide, by decide⟩

/-- What an integer is rounded to: an integer of the format to which none of the format is closer,
or, if the integer is beyond all of the format, the infinity on its side. -/
inductive IsNearest (n : Int) : Extended → Prop
  | finite (k : Int) (represents : Represents k.natAbs)
    (closest : ∀ m : Int, Represents m.natAbs → (k - n).natAbs ≤ (m - n).natAbs) :
    IsNearest n (Extended.finite k)
  | infinite (beyond : ∀ m : Int, Represents m.natAbs → m.natAbs < n.natAbs) :
    IsNearest n (Extended.infinite (n < 0))

namespace IsNearest

variable {n : Int} {amount : Extended}

/-- An integer is rounded to itself exactly if it is of the format. If it is of the format, nothing
of the format is closer to it than itself. -/
theorem eq_iff (nearest : IsNearest n amount) :
    amount = Extended.finite n ↔ Represents n.natAbs := by
  cases nearest with
  | finite k represents closest =>
    rw [Extended.finite_inj, Int.cast_inj]
    constructor
    · rintro rfl
      exact represents
    · intro own
      have same := closest n own
      omega
  | infinite beyond =>
    refine iff_of_false (Extended.infinite_ne_finite _ _) fun own => ?_
    exact absurd (beyond n own) (Nat.lt_irrefl _)

/-- Rounding goes over no integer of the format from below. -/
theorem le_of_le (nearest : IsNearest n amount) {m : Int} (represents : Represents m.natAbs)
    (below : n ≤ m) : amount ≤ Extended.finite m := by
  cases nearest with
  | finite k own closest =>
    have near := closest m represents
    rw [Extended.finite_le_finite, Int.cast_le]
    omega
  | infinite beyond =>
    have far := beyond m represents
    have negative : n < 0 := by omega
    rw [decide_eq_true negative]
    exact bot_le

/-- Rounding goes over no integer of the format from above. This is `IsNearest.le_of_le` from the
other side. -/
theorem ge_of_ge (nearest : IsNearest n amount) {m : Int} (represents : Represents m.natAbs)
    (above : m ≤ n) : Extended.finite m ≤ amount := by
  cases nearest with
  | finite k own closest =>
    have near := closest m represents
    rw [Extended.finite_le_finite, Int.cast_le]
    omega
  | infinite beyond =>
    have far := beyond m represents
    have positive : ¬n < 0 := by omega
    rw [decide_eq_false positive]
    exact le_top

/-- Rounding an integer takes it over none of at most 53 bits, and over none at all if it is of the
format itself. A limit of at most 53 bits has neighbours of the format on both sides, and rounding
does not go over these either. -/
theorem same_side (nearest : IsNearest n amount) {limit : Int}
    (near : Represents n.natAbs ∨ limit.natAbs < 2 ^ 53) :
    (amount < Extended.finite limit ↔ n < limit) ∧
      (Extended.finite limit < amount ↔ limit < n) := by
  rcases near with own | small
  · simp [nearest.eq_iff.2 own]
  rcases lt_trichotomy n limit with below | rfl | above
  · -- The integer before the limit is of the format, and rounding does not go over it.
    have atMost : amount ≤ Extended.finite ((limit - 1 : Int) : ℚ) :=
      nearest.le_of_le (represents_of_le (by omega)) (by omega)
    have less : amount < Extended.finite limit :=
      atMost.trans_lt (by rw [Extended.finite_lt_finite, Int.cast_lt]; omega)
    exact ⟨iff_of_true less below, iff_of_false less.not_gt (by omega)⟩
  · simp [nearest.eq_iff.2 (represents_of_le (by omega))]
  · have atLeast : Extended.finite ((limit + 1 : Int) : ℚ) ≤ amount :=
      nearest.ge_of_ge (represents_of_le (by omega)) (by omega)
    have greater : Extended.finite limit < amount :=
      lt_of_lt_of_le (by rw [Extended.finite_lt_finite, Int.cast_lt]; omega) atLeast
    exact ⟨iff_of_false greater.not_gt (by omega), iff_of_true greater above⟩

end IsNearest

/-- An integer is its size with a sign, and the number nearest to it is the one nearest to its size,
with the same sign. -/
theorem nearest_eq {n : Int} {magnitude : Nat} (size : n.natAbs = magnitude) :
    ∃ negative, decide (n < 0) = negative ∧
      n = (if negative then -(magnitude : Int) else magnitude) ∧
      nearest n = ofRatio negative magnitude 1 := by
  refine ⟨n < 0, rfl, ?_, by rw [nearest, size]⟩
  by_cases below : n < 0
  · rw [if_pos (decide_eq_true below)]
    omega
  · rw [if_neg (by simpa using below)]
    omega

/-- The number nearest to an integer of at most 53 bits equals it. Its significand is the integer
with zeros behind it, and the exponent takes them off again. -/
theorem extended?_nearest_of_small {n : Int} (small : n.natAbs < 2 ^ 53) :
    (nearest n).quantity.extended? = some (Extended.finite n) := by
  generalize size : n.natAbs = magnitude at small
  obtain ⟨negative, -, rfl, isNearest⟩ := nearest_eq size
  rw [isNearest]
  by_cases zero : magnitude = 0
  · subst zero
    cases negative <;> simp [ofRatio, quantity, Quantity.extended?]
  · obtain ⟨k, rounded⟩ := ofRatio_of_small zero negative small
    rw [rounded, quantity, Quantity.extended?]
    cases negative <;> simp

/-- The number nearest to an integer can be ordered, and it is what the integer is rounded to. What
is known of rounding sizes is carried over to integers with a sign here, for small ones, for large
ones in reach, and for those out of reach. -/
theorem isNearest_nearest (n : Int) :
    ∃ amount, (nearest n).quantity.extended? = some amount ∧ IsNearest n amount := by
  by_cases small : n.natAbs < 2 ^ 53
  · refine ⟨_, extended?_nearest_of_small small, .finite n (represents_of_le small.le) ?_⟩
    intro m _
    omega
  · generalize size : n.natAbs = magnitude at small
    obtain ⟨negative, sign, signed, isNearest⟩ := nearest_eq size
    obtain ⟨significand, exponent, rounds, rounded⟩ := ofRatio_of_large negative (not_lt.1 small)
    rw [isNearest, rounded]
    by_cases out : maxExponent < exponent
    · rw [if_pos out]
      have beyond (m : Int) (represents : Represents m.natAbs) : m.natAbs < n.natAbs :=
        size ▸ rounds.beyond out represents
      exact ⟨Extended.infinite negative, rfl, sign ▸ .infinite beyond⟩
    · rw [if_neg out]
      have represents : Represents (significand * 2 ^ exponent) :=
        ⟨significand, exponent, rounds.bits, not_lt.1 out, rfl⟩
      have closest := rounds.closest
      have isAmount : (Binary64.finite negative significand exponent).quantity.extended? =
          some (Extended.finite ((if negative then -((significand * 2 ^ exponent : Nat) : Int)
            else (significand * 2 ^ exponent : Nat) : Int) : ℚ)) := by
        cases negative <;> simp [quantity, Quantity.extended?]
      generalize significand * 2 ^ exponent = product at represents closest isAmount
      refine ⟨_, isAmount, .finite _ ?_ fun m other => ?_⟩
      · cases negative with
        | true => simpa using represents
        | false => simpa using represents
      · have near := closest m.natAbs other
        rw [signed]
        cases negative with
        | true =>
          simp only [if_true]
          omega
        | false =>
          simp only [Bool.false_eq_true, if_false]
          omega

end RecordValidation.Binary64
