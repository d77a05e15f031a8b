import Mathlib.Algebra.Ring.Nat
import VitaeShell.Number.Binary64

/-!
# The range of binary floating point

A whole number has a nearest value unless it lies beyond the largest one. Up to 53 binary digits
that value is the number itself. A longer number is rounded to 53 digits, which may carry into one
digit more, and has no finite value from `limit` on, halfway between the largest value and the power
of two behind it.

## Main results

* `le_log2_of_ofInt_eq_infinite`: a whole number that becomes infinite is no smaller than
  `2 ^ 1023`.
* `ofRatio_of_limit_le`: from the limit on no value is near.
* `exists_truncate?_ofRatio`: below the limit the whole part of the value is the number, or both are
  longer than 53 digits.
* `ofDecimal_zero`: a decimal without a fraction is read as the whole number that its digits are.
* `natAbs_lt_of_truncate?_ofDecimal`: the whole part of a decimal has few digits, however many the
  decimal is written with.
-/

namespace VitaeShell.Binary64

/-- The power of two below a whole number. -/
theorem floorLog2_one {n : Nat} (hn : n ≠ 0) : floorLog2 n 1 = n.log2 := by
  have hle : 2 ^ n.log2 ≤ n := Nat.log2_self_le hn
  have hlog : (1 : Nat).log2 = 0 := by decide
  simp only [floorLog2, hlog, scaleTwo, Int.ofNat_zero, Int.sub_zero, Int.natCast_nonneg, if_pos,
    Int.toNat_natCast, Nat.one_mul, Nat.pow_eq]
  rw [if_neg (Nat.not_lt.mpr hle)]

/-- **A whole number that becomes infinite** takes more than 1023 binary digits. -/
theorem le_log2_of_ofInt_eq_infinite {n : Nat} {negative : Bool}
    (h : ofInt n = .infinite negative) : 1023 ≤ n.log2 := by
  rw [ofInt, Int.natAbs_natCast, ofRatio] at h
  split at h
  · cases h
  · next hn =>
      rw [floorLog2_one hn] at h
      dsimp only at h
      have hmax : maxExponent = 971 := rfl
      have hmin : minExponent = -1074 := rfl
      -- with or without a carry out of the rounding
      split at h
      all_goals
        split at h
        · next hlarge =>
            simp only at hlarge
            omega
        · cases h

/-! ### Rounding a quotient -/

/-- A whole number needs no rounding. -/
theorem roundHalfEven_one (num : Nat) : roundHalfEven num 1 = num := by
  simp [roundHalfEven, Nat.mod_one]

/-- A quotient is rounded to no more than a whole number that it does not exceed. -/
theorem roundHalfEven_le {num den k : Nat} (hden : 0 < den) (h : num ≤ den * k) :
    roundHalfEven num den ≤ k := by
  have hdiv : den * (num / den) + num % den = num := Nat.div_add_mod num den
  simp only [roundHalfEven]
  generalize num / den = quotient at hdiv ⊢
  generalize num % den = rest at hdiv ⊢
  rcases Nat.lt_or_ge quotient k with hlt | hge
  · split <;> omega
  · -- the quotient is that number, and nothing is left to round
    have hmul : den * k ≤ den * quotient := Nat.mul_le_mul_left den hge
    have hquotient : quotient = k := Nat.eq_of_mul_eq_mul_left hden (by omega)
    exact Nat.le_of_eq ((if_neg (by omega)).trans hquotient)

/-- An even number is what a quotient is rounded to at least, from halfway below that number on. -/
theorem le_roundHalfEven_iff {num den k : Nat} (hden : 0 < den) (hk : k % 2 = 0) :
    k ≤ roundHalfEven num den ↔ 2 * (den * k) ≤ 2 * num + den := by
  have hdiv : den * (num / den) + num % den = num := Nat.div_add_mod num den
  have hrest : num % den < den := Nat.mod_lt num hden
  simp only [roundHalfEven]
  generalize num / den = quotient at hdiv ⊢
  generalize num % den = rest at hdiv hrest ⊢
  -- only the number after the quotient is in doubt
  rcases Nat.lt_trichotomy k (quotient + 1) with hbelow | rfl | habove
  · have hmul : den * k ≤ den * quotient := Nat.mul_le_mul_left den (by omega)
    split <;> omega
  · rw [Nat.mul_succ]
    split <;> omega
  · have hmul : den * (quotient + 2) ≤ den * k := Nat.mul_le_mul_left den (by omega)
    rw [Nat.mul_add] at hmul
    split <;> omega

/-! ### The end of the range -/

/-- Halfway from the largest value of 53 digits with the exponent `top + 1` to what would follow
it. -/
def limitAbove (top : Nat) : Nat := (2 ^ 54 - 1) * 2 ^ top

/-- The least whole number without a finite value near it. -/
def limit : Nat := limitAbove 970

example : limit = 2 ^ 1024 - 2 ^ 970 := by
  unfold limit limitAbove
  decide +kernel

/-- A number reaches a limit if it has more digits than can stand below it, or as many and its first
54 digits are ones. -/
theorem limitAbove_le_iff {n k top : Nat} (hlower : 2 ^ k * 2 ^ 52 ≤ n)
    (hupper : n < 2 ^ k * 2 ^ 53) :
    limitAbove top ≤ n ↔ top + 1 < k ∨ k = top + 1 ∧ 2 * (2 ^ k * 2 ^ 53) ≤ 2 * n + 2 ^ k := by
  rw [limitAbove]
  rcases Nat.lt_trichotomy k (top + 1) with hbelow | rfl | habove
  · have hpow : 2 ^ k ≤ 2 ^ top := Nat.pow_le_pow_right (by decide) (by omega)
    omega
  · rw [Nat.pow_succ]
    omega
  · have hpow : 2 ^ (top + 2) ≤ 2 ^ k := Nat.pow_le_pow_right (by decide) (by omega)
    rw [Nat.pow_succ, Nat.pow_succ] at hpow
    omega

/-! ### Whole numbers as values -/

/-- A whole number with a sign. -/
def signed (negative : Bool) (n : Nat) : Int :=
  if negative then -n else n

@[simp]
theorem signed_true (n : Nat) : signed true n = -n := rfl

@[simp]
theorem signed_false (n : Nat) : signed false n = n := rfl

/-- A sign does not change how large a number is. -/
@[simp]
theorem natAbs_signed (negative : Bool) (n : Nat) : (signed negative n).natAbs = n := by
  cases negative <;> simp

/-- With an exponent that is not negative, a number is whole. -/
theorem truncate?_finite_of_nonneg (negative : Bool) (mantissa exponent : Nat) :
    truncate? (.finite negative mantissa exponent) =
      some (signed negative (mantissa * 2 ^ exponent)) := by
  rw [truncate?, if_pos (Int.natCast_nonneg exponent), Int.toNat_natCast, Nat.pow_eq, signed]

/-- With a negative exponent, what stands behind the point is dropped. -/
theorem truncate?_finite_neg (negative : Bool) (mantissa exponent : Nat) :
    truncate? (.finite negative mantissa (-exponent)) =
      some (signed negative (mantissa / 2 ^ exponent)) := by
  cases exponent with
  | zero => simpa using truncate?_finite_of_nonneg negative mantissa 0
  | succ exponent =>
      have hexponent : ¬(0 : Int) ≤ -((exponent + 1 : Nat) : Int) := by omega
      rw [truncate?, if_neg hexponent, Int.neg_neg, Int.toNat_natCast, Nat.pow_eq, signed]

/-- Zero is truncated to zero, with either sign. -/
theorem truncate?_zero (negative : Bool) : truncate? (zero negative) = some 0 := by
  obtain ⟨least, hleast⟩ : ∃ least : Nat, minExponent = -(least : Int) := ⟨1074, rfl⟩
  rw [zero, hleast, truncate?_finite_neg, Nat.zero_div]
  cases negative <;> rfl

/-- A number of up to 53 binary digits is a value. -/
theorem truncate?_ofRatio_of_lt {n : Nat} (negative : Bool) (hn : n < 2 ^ 53) :
    truncate? (ofRatio negative n 1) = some (signed negative n) := by
  by_cases hzero : n = 0
  · rw [hzero, ofRatio, if_pos rfl, truncate?_zero]
    cases negative <;> rfl
  · have hlog : n.log2 < 53 := (Nat.log2_lt hzero).mpr hn
    obtain ⟨shift, hshift⟩ : ∃ shift : Nat, shift + n.log2 = 52 := ⟨52 - n.log2, by omega⟩
    have hexponent : max (floorLog2 n 1 - 52) minExponent = -(shift : Int) := by
      rw [floorLog2_one hzero, minExponent]
      omega
    have hscale : scaleTwo n 1 (-(shift : Int)) = (n * 2 ^ shift, 1) := by
      cases shift with
      | zero => simp [scaleTwo]
      | succ shift =>
          have hneg : ¬(0 : Int) ≤ -((shift + 1 : Nat) : Int) := by omega
          rw [scaleTwo, if_neg hneg, Int.neg_neg, Int.toNat_natCast, Nat.pow_eq]
    have hmantissa : n * 2 ^ shift < 2 ^ 53 := by
      calc
        n * 2 ^ shift < 2 ^ (n.log2 + 1) * 2 ^ shift :=
          Nat.mul_lt_mul_of_pos_right Nat.lt_log2_self (Nat.two_pow_pos shift)
        _ = 2 ^ 53 := by rw [← Nat.pow_add]; congr 1; omega
    have hvalue : ofRatio negative n 1 = .finite negative (n * 2 ^ shift) (-shift) := by
      have hmax : maxExponent = 971 := rfl
      rw [ofRatio, if_neg hzero]
      simp only [hexponent, hscale, roundHalfEven_one, Nat.pow_eq,
        if_neg (Nat.ne_of_lt hmantissa), hmax]
      exact if_neg (by omega)
    rw [hvalue, truncate?_finite_neg, Nat.mul_div_cancel _ (Nat.two_pow_pos shift)]

/-- The numbers up to 2 ^ 53 are far below the limit. -/
theorem pow_le_limit : 2 ^ 53 ≤ limit := by
  unfold limit limitAbove
  decide +kernel

/-- The value near a longer number has 53 digits, unless it lies beyond all values. Its exponent
passes a bound exactly if the number reaches the limit above that bound. -/
theorem exists_ofRatio_eq {n : Nat} (negative : Bool) (hn : 2 ^ 53 ≤ n) :
    ∃ mantissa exponent : Nat, 2 ^ 52 ≤ mantissa ∧ 1 ≤ exponent ∧
      (∀ top, top + 1 < exponent ↔ limitAbove top ≤ n) ∧
      ofRatio negative n 1 = if maxExponent < exponent then .infinite negative
        else .finite negative mantissa exponent := by
  have hzero : n ≠ 0 := by omega
  have hlog : 53 ≤ n.log2 := (Nat.le_log2 hzero).mpr hn
  obtain ⟨k, hk⟩ : ∃ k, n.log2 = k + 52 := ⟨n.log2 - 52, by omega⟩
  have hlower : 2 ^ k * 2 ^ 52 ≤ n := by
    rw [← Nat.pow_add, ← hk]
    exact Nat.log2_self_le hzero
  have hupper : n < 2 ^ k * 2 ^ 53 := by
    have hlength : n < 2 ^ (n.log2 + 1) := Nat.lt_log2_self
    have hdigits : n.log2 + 1 = k + 53 := by omega
    rwa [hdigits, Nat.pow_add] at hlength
  have hexponent : max (floorLog2 n 1 - 52) minExponent = (k : Int) := by
    rw [floorLog2_one hzero, minExponent]
    omega
  have hscale : scaleTwo n 1 (k : Int) = (n, 2 ^ k) := by
    rw [scaleTwo, if_pos (Int.natCast_nonneg k), Int.toNat_natCast, Nat.pow_eq, Nat.one_mul]
  have hpos : 0 < 2 ^ k := Nat.two_pow_pos k
  have hleast : 2 ^ 52 ≤ roundHalfEven n (2 ^ k) := by
    rw [le_roundHalfEven_iff hpos (by decide)]
    omega
  have hmost : roundHalfEven n (2 ^ k) ≤ 2 ^ 53 := roundHalfEven_le hpos (Nat.le_of_lt hupper)
  have hcarry : 2 ^ 53 ≤ roundHalfEven n (2 ^ k) ↔ 2 * (2 ^ k * 2 ^ 53) ≤ 2 * n + 2 ^ k :=
    le_roundHalfEven_iff hpos (by decide)
  rw [ofRatio, if_neg hzero]
  simp only [hexponent, hscale, Nat.pow_eq, limitAbove_le_iff hlower hupper, ← hcarry]
  by_cases hfull : roundHalfEven n (2 ^ k) = 2 ^ 53
  · -- rounding carries into one more digit
    rw [if_pos hfull]
    exact ⟨2 ^ 52, k + 1, Nat.le_refl _, by omega, fun top => by omega, rfl⟩
  · rw [if_neg hfull]
    exact ⟨roundHalfEven n (2 ^ k), k, hleast, by omega, fun top => by omega, rfl⟩

/-- The exponent of the limit is the largest one. -/
theorem maxExponent_lt_iff {exponent : Nat} : maxExponent < exponent ↔ 970 + 1 < exponent := by
  have hmax : maxExponent = 971 := rfl
  omega

/-- **From the limit on** no value is near. -/
theorem ofRatio_of_limit_le {n : Nat} (negative : Bool) (h : limit ≤ n) :
    ofRatio negative n 1 = .infinite negative := by
  obtain ⟨mantissa, exponent, -, -, htop, hvalue⟩ :=
    exists_ofRatio_eq negative (Nat.le_trans pow_le_limit h)
  rw [hvalue, if_pos (maxExponent_lt_iff.mpr ((htop 970).mpr h))]

/-- **Below the limit** the whole part of the value near a number is that number, unless it has more
than 53 digits; then the whole part has so too. -/
theorem exists_truncate?_ofRatio {n : Nat} (negative : Bool) (h : n < limit) :
    ∃ m, truncate? (ofRatio negative n 1) = some (signed negative m) ∧
      (m = n ∨ 2 ^ 53 ≤ m ∧ 2 ^ 53 ≤ n) := by
  by_cases hshort : n < 2 ^ 53
  · exact ⟨n, truncate?_ofRatio_of_lt negative hshort, .inl rfl⟩
  · rw [Nat.not_lt] at hshort
    obtain ⟨mantissa, exponent, hmantissa, hexponent, htop, hvalue⟩ :=
      exists_ofRatio_eq negative hshort
    have hwithin : ¬maxExponent < exponent :=
      fun hover => Nat.not_le.mpr h ((htop 970).mp (maxExponent_lt_iff.mp hover))
    rw [hvalue, if_neg hwithin]
    refine ⟨mantissa * 2 ^ exponent, truncate?_finite_of_nonneg negative mantissa exponent,
      .inr ⟨?_, hshort⟩⟩
    calc
      2 ^ 53 = 2 ^ 52 * 2 ^ 1 := rfl
      _ ≤ mantissa * 2 ^ exponent :=
        Nat.mul_le_mul hmantissa (Nat.pow_le_pow_right (by decide) hexponent)

/-! ### Decimals without a fraction -/

/-- The number of digits before the point that a decimal has at most, unless it is infinite. -/
def longest : Nat := 310

/-- The power of ten that tells large decimals apart lies beyond the limit. -/
theorem limit_le_pow : limit ≤ 10 ^ longest := by
  unfold limit limitAbove longest
  decide +kernel

/-- A number of more digits than that reaches the limit. -/
theorem limit_le_of_length {n : Nat} (h : longest < (Nat.toDigits 10 n).length) : limit ≤ n := by
  have hshort (size : Nat) (hsize : 0 < size) (hn : n < 10 ^ size) :
      (Nat.toDigits 10 n).length ≤ size :=
    (Nat.length_toDigits_le_iff (by decide) hsize).mpr hn
  refine Nat.not_lt.mp fun hbelow => Nat.not_lt.mpr ?_ h
  exact hshort longest (by decide) (Nat.lt_of_lt_of_le hbelow limit_le_pow)

/-- A decimal without a fraction is read as the whole number that its digits are, however many. -/
theorem ofDecimal_zero (negative : Bool) (n : Nat) :
    ofDecimal negative n 0 = ofRatio negative n 1 := by
  by_cases hzero : n = 0
  · rw [ofDecimal, if_pos hzero, ofRatio, if_pos hzero]
  · have hlength : decimalLength n = (Nat.toDigits 10 n).length := if_neg hzero
    have hlongest : longest = 310 := rfl
    rw [ofDecimal, if_neg hzero, hlength]
    simp only [Int.zero_add]
    by_cases hlarge : (Nat.toDigits 10 n).length ≤ longest
    · rw [if_neg (by omega), if_neg (by omega), if_pos (Int.le_refl 0), Int.toNat_zero, Nat.pow_eq,
        Nat.pow_zero, Nat.mul_one]
    · rw [if_pos (by omega), ofRatio_of_limit_le negative (limit_le_of_length (by omega))]

/-! ### The size of a whole part -/

/-- At an exponent, rounding a quotient adds no more than the power of two there. -/
theorem roundHalfEven_mul_le {num den bound : Nat} (hden : 0 < den) (h : num ≤ den * bound)
    (k : Nat) : roundHalfEven num (den * 2 ^ k) * 2 ^ k ≤ bound + 2 ^ k := by
  have hpos : 0 < 2 ^ k := Nat.two_pow_pos k
  have hbound : bound ≤ 2 ^ k * (bound / 2 ^ k + 1) := Nat.le_of_lt (Nat.lt_mul_div_succ bound hpos)
  have hround : roundHalfEven num (den * 2 ^ k) ≤ bound / 2 ^ k + 1 := by
    refine roundHalfEven_le (Nat.mul_pos hden hpos) (Nat.le_trans h ?_)
    rw [Nat.mul_assoc]
    exact Nat.mul_le_mul_left den hbound
  calc
    roundHalfEven num (den * 2 ^ k) * 2 ^ k ≤ (bound / 2 ^ k + 1) * 2 ^ k :=
      Nat.mul_le_mul_right _ hround
    _ = bound / 2 ^ k * 2 ^ k + 2 ^ k := Nat.succ_mul _ _
    _ ≤ bound + 2 ^ k := Nat.add_le_add_right (Nat.div_mul_le_self _ _) _

/-- A carry into one digit more does not change the whole part. -/
theorem truncate?_carry (negative : Bool) (exponent : Int) :
    truncate? (.finite negative (2 ^ 52) (exponent + 1)) =
      truncate? (.finite negative (2 ^ 53) exponent) := by
  cases exponent with
  | ofNat k =>
      have hnext : (Int.ofNat k : Int) + 1 = (k + 1 : Nat) := rfl
      rw [hnext, truncate?_finite_of_nonneg, Int.ofNat_eq_natCast, truncate?_finite_of_nonneg,
        Nat.pow_succ]
      congr 2
      omega
  | negSucc k =>
      have hnext : (Int.negSucc k : Int) + 1 = -(k : Int) := by omega
      have hhere : (Int.negSucc k : Int) = -((k + 1 : Nat) : Int) := rfl
      rw [hnext, truncate?_finite_neg, hhere, truncate?_finite_neg, Nat.pow_succ 2 k,
        Nat.pow_succ 2 52, Nat.mul_div_mul_right _ _ (by decide)]

/-- At an exponent that is not too large, the whole part of a rounded quotient exceeds a bound of
the quotient by no more than the power of two at the largest one. -/
theorem natAbs_le_of_truncate?_finite {num den bound mantissa : Nat} {negative : Bool}
    {exponent n : Int} (hden : 0 < den) (hbound : num ≤ den * bound)
    (hmantissa :
      roundHalfEven (scaleTwo num den exponent).1 (scaleTwo num den exponent).2 = mantissa)
    (hexponent : exponent ≤ maxExponent)
    (h : truncate? (.finite negative mantissa exponent) = some n) :
    n.natAbs ≤ bound + 2 ^ maxExponent.toNat := by
  cases exponent with
  | ofNat k =>
      have hscale : scaleTwo num den (k : Int) = (num, den * 2 ^ k) := by
        rw [scaleTwo, if_pos (Int.natCast_nonneg k), Int.toNat_natCast, Nat.pow_eq]
      have hround := roundHalfEven_mul_le hden hbound k
      rw [Int.ofNat_eq_natCast, hscale] at hmantissa
      rw [Int.ofNat_eq_natCast, truncate?_finite_of_nonneg, Option.some.injEq] at h
      rw [hmantissa] at hround
      have hk : (k : Int) ≤ maxExponent := hexponent
      have hunit : 2 ^ k ≤ 2 ^ maxExponent.toNat := Nat.pow_le_pow_right (by decide) (by omega)
      rw [← h, natAbs_signed]
      omega
  | negSucc k =>
      have hhere : (Int.negSucc k : Int) = -((k + 1 : Nat) : Int) := rfl
      have hneg : ¬(0 : Int) ≤ -((k + 1 : Nat) : Int) := by omega
      have hscale : scaleTwo num den (-((k + 1 : Nat) : Int)) = (num * 2 ^ (k + 1), den) := by
        rw [scaleTwo, if_neg hneg, Int.neg_neg, Int.toNat_natCast, Nat.pow_eq]
      have hround : mantissa ≤ bound * 2 ^ (k + 1) := by
        rw [← hmantissa, hhere, hscale]
        refine roundHalfEven_le hden ?_
        rw [← Nat.mul_assoc]
        exact Nat.mul_le_mul_right _ hbound
      rw [hhere, truncate?_finite_neg, Option.some.injEq] at h
      rw [← h, natAbs_signed]
      exact Nat.le_add_right_of_le (Nat.div_le_of_le_mul (by rwa [Nat.mul_comm]))

/-- **The whole part of a value** exceeds what the value was rounded from by no more than the power
of two at the largest exponent. -/
theorem natAbs_le_of_truncate?_ofRatio {num den bound : Nat} {negative : Bool} {n : Int}
    (hden : 0 < den) (hbound : num ≤ den * bound)
    (h : truncate? (ofRatio negative num den) = some n) :
    n.natAbs ≤ bound + 2 ^ maxExponent.toNat := by
  rw [ofRatio] at h
  split at h
  · rw [truncate?_zero, Option.some.injEq] at h
    rw [← h]
    exact Nat.zero_le _
  · generalize max (floorLog2 num den - 52) minExponent = exponent at h
    generalize hmantissa :
      roundHalfEven (scaleTwo num den exponent).1 (scaleTwo num den exponent).2 = mantissa at h
    dsimp only at h
    rw [hmantissa] at h
    -- carried or not, the mantissa stands at an exponent that is not too large
    by_cases hfull : mantissa = Nat.pow 2 53
    · rw [if_pos hfull] at h
      split at h
      · cases h
      · next hwithin =>
          have hcarry := (truncate?_carry negative exponent).symm.trans h
          rw [hfull] at hmantissa
          exact natAbs_le_of_truncate?_finite hden hbound hmantissa (by omega) hcarry
    · rw [if_neg hfull] at h
      split at h
      · cases h
      · next hwithin =>
          exact natAbs_le_of_truncate?_finite hden hbound hmantissa (Int.not_lt.mp hwithin) h

/-- A numeral of the greatest length has at most one digit more after it has been rounded up. -/
theorem pow_maxExponent_lt : 10 ^ longest + 2 ^ maxExponent.toNat < 10 ^ (longest + 1) := by
  unfold longest maxExponent
  decide +kernel

/-- A number has no more digits than its length says. -/
theorem lt_pow_decimalLength (n : Nat) : n < 10 ^ decimalLength n := by
  rw [decimalLength]
  split
  · next hzero => simp [hzero]
  · exact (Nat.length_toDigits_le_iff (by decide) Nat.length_toDigits_pos).mp (Nat.le_refl _)

/-- **The whole part of a decimal** has few digits, however many the decimal is written with: a
longer one has no finite value. -/
theorem natAbs_lt_of_truncate?_ofDecimal {negative : Bool} {digits : Nat} {exponent n : Int}
    (h : truncate? (ofDecimal negative digits exponent) = some n) :
    n.natAbs < 10 ^ (longest + 1) := by
  have hzero (h : truncate? (zero negative) = some n) : n.natAbs < 10 ^ (longest + 1) := by
    rw [truncate?_zero, Option.some.injEq] at h
    rw [← h]
    exact Nat.lt_of_le_of_lt (Nat.zero_le _) pow_maxExponent_lt
  have hbelow {num den : Nat} (hden : 0 < den) (hbound : num ≤ den * 10 ^ longest)
      (h : truncate? (ofRatio negative num den) = some n) : n.natAbs < 10 ^ (longest + 1) :=
    Nat.lt_of_le_of_lt (natAbs_le_of_truncate?_ofRatio hden hbound h) pow_maxExponent_lt
  have hdigits := lt_pow_decimalLength digits
  have hlongest : longest = 310 := rfl
  unfold ofDecimal at h
  extract_lets size at h
  split at h
  · exact hzero h
  split at h
  · cases h
  split at h
  · exact hzero h
  split at h
  · next hnonneg =>
      refine hbelow Nat.one_pos ?_ h
      obtain ⟨k, rfl⟩ := Int.eq_ofNat_of_zero_le hnonneg
      have hshifted : digits * 10 ^ k ≤ 10 ^ (decimalLength digits + k) := by
        rw [Nat.pow_add]
        exact Nat.mul_le_mul_right _ (Nat.le_of_lt hdigits)
      rw [Nat.one_mul, Int.toNat_natCast, Nat.pow_eq]
      exact Nat.le_trans hshifted (Nat.pow_le_pow_right (by decide) (by omega))
  · next hneg =>
      refine hbelow (Nat.pow_pos (by decide)) ?_ h
      rw [← Nat.pow_add]
      exact Nat.le_trans (Nat.le_of_lt hdigits) (Nat.pow_le_pow_right (by decide) (by omega))

end VitaeShell.Binary64
