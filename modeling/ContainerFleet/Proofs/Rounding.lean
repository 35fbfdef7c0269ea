import ContainerFleet.Duration.Basic
import Mathlib.Algebra.Order.Field.Power
import Mathlib.Data.Rat.Floor
import Mathlib.Tactic.FieldSimp
import Mathlib.Tactic.Linarith

/-!
How far arithmetic in binary floating point is off. Main statements: `timesOneAndHalf?_error`, for half
again as much of a span, and `timesOneAndHalf?_eq_none_iff`, when there is no such span. The latter needs
two values only, because rounding keeps the order (`round_mono`).
-/

namespace ContainerFleet

namespace Binary64

theorem roundEven_error (q : Rat) : |(roundEven q : Rat) - q| ≤ 1 / 2 := by
  have hle : (q.floor : Rat) ≤ q := Rat.floor_le q
  have hlt : q < (q.floor : Rat) + 1 := by exact_mod_cast Rat.lt_floor_add_one q
  unfold roundEven
  dsimp only
  split_ifs <;> push_cast <;> rw [abs_le] <;> constructor <;> linarith

theorem roundEven_nonneg {q : Rat} (hq : 0 ≤ q) : 0 ≤ roundEven q := by
  have hfloor : 0 ≤ q.floor := Rat.le_floor_iff.2 (by simpa using hq)
  unfold roundEven
  dsimp only
  split_ifs <;> omega

theorem le_roundEven {q : Rat} {n : Int} (h : (n : Rat) ≤ q) : n ≤ roundEven q := by
  have hfloor : n ≤ q.floor := Rat.le_floor_iff.2 h
  unfold roundEven
  dsimp only
  split_ifs <;> omega

theorem roundEven_le {q : Rat} {n : Int} (h : q ≤ n) : roundEven q ≤ n := by
  have herror := (abs_le.1 (roundEven_error q)).2
  have hlt : (roundEven q : Rat) < ((n + 1 : Int) : Rat) := by
    push_cast
    linarith
  exact Int.lt_add_one_iff.1 (Rat.intCast_lt_intCast.1 hlt)

theorem roundEven_mono {a b : Rat} (h : a ≤ b) : roundEven a ≤ roundEven b := by
  have hnext : a ≤ ((a.floor + 1 : Int) : Rat) := (Rat.lt_floor_add_one a).le
  rcases (Rat.floor_monotone h).lt_or_eq with hlt | heq
  · calc roundEven a
      _ ≤ a.floor + 1 := roundEven_le hnext
      _ ≤ b.floor := hlt
      _ ≤ roundEven b := le_roundEven (Rat.floor_le b)
  · unfold roundEven
    dsimp only
    rw [← heq]
    split_ifs <;> first | omega | linarith

theorem power_eq_zpow (e : Int) : power e = (2 : Rat) ^ e := by
  cases e with
  | ofNat n => simp [power]
  | negSucc n => simp [power, zpow_negSucc]

theorem power_pos (e : Int) : 0 < power e := by
  rw [power_eq_zpow]
  positivity

theorem power_mono {e f : Int} (h : e ≤ f) : power e ≤ power f := by
  rw [power_eq_zpow, power_eq_zpow]
  exact zpow_le_zpow_right₀ one_le_two h

theorem power_add (e : Int) (n : Nat) : power (e + n) = (2 ^ n : Nat) * power e := by
  rw [power_eq_zpow, power_eq_zpow, zpow_add₀ two_ne_zero, zpow_natCast, mul_comm]
  push_cast
  rfl

theorem cast_toNat_num {q : Rat} (hq : 0 < q) : ((q.num.toNat : Int) : Rat) = q.num := by
  rw [Int.toNat_of_nonneg (Rat.num_pos.2 hq).le]

/-- A ratio reaches its power of two: numerator and denominator lie between powers of two. -/
theorem power_exponent_le {q : Rat} (hq : 0 < q) : power (exponent q) ≤ q := by
  unfold exponent
  dsimp only
  split
  · next hguess => exact hguess
  · have hnum : 0 < q.num := Rat.num_pos.2 hq
    have hlow : (2 : Rat) ^ q.num.toNat.log2 ≤ q.num := by
      have hself := Nat.log2_self_le (show q.num.toNat ≠ 0 by omega)
      rw [← cast_toNat_num hq]
      exact_mod_cast hself
    have hhigh : (q.den : Rat) ≤ (2 : Rat) ^ (q.den.log2 + 1) := by
      exact_mod_cast Nat.lt_log2_self.le
    have hden : (0 : Rat) < q.den := by exact_mod_cast q.den_pos
    calc power ((q.num.toNat.log2 : Int) - q.den.log2 - 1)
      _ = (2 : Rat) ^ q.num.toNat.log2 / (2 : Rat) ^ (q.den.log2 + 1) := by
        rw [power_eq_zpow, sub_sub, zpow_sub₀ two_ne_zero]
        norm_cast
      _ ≤ q.num / q.den := div_le_div₀ (by exact_mod_cast hnum.le) hlow hden hhigh
      _ = q := Rat.num_div_den q

/-- No larger power of two is reached. -/
theorem lt_power_exponent_add_one {q : Rat} (hq : 0 < q) : q < power (exponent q + 1) := by
  unfold exponent
  dsimp only
  split
  · have hhigh : (q.num : Rat) < (2 : Rat) ^ (q.num.toNat.log2 + 1) := by
      have hself := Nat.lt_log2_self (n := q.num.toNat)
      rw [← cast_toNat_num hq]
      exact_mod_cast hself
    have hlow : (2 : Rat) ^ q.den.log2 ≤ q.den := by
      exact_mod_cast Nat.log2_self_le q.den_nz
    have hexponent : (q.num.toNat.log2 : Int) - q.den.log2 + 1 =
        (q.num.toNat.log2 + 1 : Nat) - (q.den.log2 : Int) := by
      push_cast
      ring
    calc q
      _ = q.num / q.den := (Rat.num_div_den q).symm
      _ < (2 : Rat) ^ (q.num.toNat.log2 + 1) / (2 : Rat) ^ q.den.log2 :=
        div_lt_div₀ hhigh hlow (by positivity) (by positivity)
      _ = power ((q.num.toNat.log2 : Int) - q.den.log2 + 1) := by
        rw [power_eq_zpow, hexponent, zpow_sub₀ two_ne_zero]
        norm_cast
  · next hguess => simpa using hguess

theorem exponent_mono {a b : Rat} (ha : 0 < a) (h : a ≤ b) : exponent a ≤ exponent b := by
  by_contra hlt
  have hreach : power (exponent b + 1) ≤ a :=
    (power_mono (by omega)).trans (power_exponent_le ha)
  exact absurd (lt_power_exponent_add_one (ha.trans_le h)) (not_lt.2 (hreach.trans h))

/-- A number is rounded by half a unit in its last place at most. -/
theorem round_error {q : Rat} (hq : 0 ≤ q) : |round q - q| ≤ q / 2 ^ 53 := by
  unfold round
  split
  · next hzero => simp [hzero]
  · next hne =>
      have hpos : 0 < q := lt_of_le_of_ne hq (Ne.symm hne)
      let unit := power (exponent q - 52)
      have hunit : 0 < unit := by
        rw [show unit = _ from power_eq_zpow _]
        positivity
      have hsmall : unit ≤ q / 2 ^ 52 := by
        rw [le_div_iff₀ (by positivity)]
        calc unit * 2 ^ 52
          _ = power (exponent q) := by
            rw [show unit = _ from power_eq_zpow _, power_eq_zpow, zpow_sub₀ two_ne_zero]
            field_simp
          _ ≤ q := power_exponent_le hpos
      calc |(roundEven (q / unit) : Rat) * unit - q|
        _ = |(roundEven (q / unit) : Rat) - q / unit| * unit := by
          rw [← abs_of_pos hunit, ← abs_mul, abs_of_pos hunit, sub_mul, div_mul_cancel₀ q hunit.ne']
        _ ≤ 1 / 2 * unit := mul_le_mul_of_nonneg_right (roundEven_error _) hunit.le
        _ ≤ q / 2 ^ 53 := by linarith

theorem round_nonneg {q : Rat} (hq : 0 ≤ q) : 0 ≤ round q := by
  have herror := abs_le.1 (round_error hq)
  linarith [herror.1]

theorem round_of_pos {q : Rat} (hq : 0 < q) :
    round q = roundEven (q / power (exponent q - 52)) * power (exponent q - 52) := by
  rw [round, if_neg hq.ne']

/-- A power of two that is reached is not rounded away. -/
theorem power_exponent_le_round {q : Rat} (hq : 0 < q) : power (exponent q) ≤ round q := by
  have hunit := power_pos (exponent q - 52)
  have hscaled : power (exponent q) = (2 ^ 52 : Nat) * power (exponent q - 52) := by
    rw [← power_add]
    congr 1
    omega
  have hdigits : ((2 ^ 52 : Nat) : Int) ≤ roundEven (q / power (exponent q - 52)) := by
    apply le_roundEven
    rw [le_div_iff₀ hunit]
    exact_mod_cast hscaled ▸ power_exponent_le hq
  rw [round_of_pos hq, hscaled]
  exact mul_le_mul_of_nonneg_right (by exact_mod_cast hdigits) hunit.le

/-- Rounding does not go beyond the next power of two. -/
theorem round_le_power {q : Rat} (hq : 0 < q) : round q ≤ power (exponent q + 1) := by
  have hunit := power_pos (exponent q - 52)
  have hscaled : power (exponent q + 1) = (2 ^ 53 : Nat) * power (exponent q - 52) := by
    rw [← power_add]
    congr 1
    omega
  have hdigits : roundEven (q / power (exponent q - 52)) ≤ ((2 ^ 53 : Nat) : Int) := by
    apply roundEven_le
    rw [div_le_iff₀ hunit]
    exact_mod_cast hscaled ▸ (lt_power_exponent_add_one hq).le
  rw [round_of_pos hq, hscaled]
  exact mul_le_mul_of_nonneg_right (by exact_mod_cast hdigits) hunit.le

/-- Numbers between other powers of two are kept apart by these, those between the same ones have one
unit. -/
theorem round_mono {a b : Rat} (ha : 0 ≤ a) (h : a ≤ b) : round a ≤ round b := by
  rcases ha.eq_or_lt with rfl | hpos
  · exact round_nonneg h
  · rcases (exponent_mono hpos h).lt_or_eq with hlt | heq
    · calc round a
        _ ≤ power (exponent a + 1) := round_le_power hpos
        _ ≤ power (exponent b) := power_mono hlt
        _ ≤ round b := power_exponent_le_round (hpos.trans_le h)
    · have hunit := power_pos (exponent b - 52)
      rw [round_of_pos hpos, round_of_pos (hpos.trans_le h), heq]
      refine mul_le_mul_of_nonneg_right ?_ hunit.le
      exact_mod_cast roundEven_mono (div_le_div_of_nonneg_right h hunit.le)

end Binary64

namespace Duration

variable {d wait : Duration}

theorem inNanos_eq (d : Duration) :
    (d.inNanos : Rat) / 1000000000 = d.secs + (d.nanos : Rat) / 1000000000 := by
  rw [inNanos]
  push_cast
  ring

theorem inSeconds_nonneg (d : Duration) : 0 ≤ d.inSeconds :=
  Binary64.round_nonneg
    (add_nonneg (Binary64.round_nonneg (by positivity)) (Binary64.round_nonneg (by positivity)))

/-- The parts of a span are rounded, and then their sum. -/
theorem inSeconds_error (d : Duration) :
    |d.inSeconds - (d.inNanos : Rat) / 1000000000| ≤ (d.inNanos : Rat) / 1000000000 / 2 ^ 51 := by
  have hsecs := abs_le.1 (Binary64.round_error (q := d.secs) (by positivity))
  have hnanos := abs_le.1 (Binary64.round_error (q := (d.nanos : Rat) / 1000000000) (by positivity))
  have hsum := abs_le.1 (Binary64.round_error (add_nonneg
    (Binary64.round_nonneg (q := d.secs) (by positivity))
    (Binary64.round_nonneg (q := (d.nanos : Rat) / 1000000000) (by positivity))))
  have hspan : (0 : Rat) ≤ d.secs + (d.nanos : Rat) / 1000000000 := by positivity
  rw [inNanos_eq, inSeconds, abs_le]
  constructor <;> linarith

/-- The wait is half again as long as the span, but for half a nanosecond and for what roundings to 53
digits make of it. -/
theorem timesOneAndHalf?_error (h : d.timesOneAndHalf? = some wait) :
    |(wait.inNanos : Rat) - 3 / 2 * d.inNanos| ≤ 1 / 2 + (d.inNanos : Rat) / 2 ^ 50 := by
  obtain ⟨product, hproduct⟩ : ∃ product, product =
    Binary64.round (3 / 2 * d.inSeconds) * 1000000000 := ⟨_, rfl⟩
  have hnonneg : 0 ≤ product := by
    rw [hproduct]
    exact mul_nonneg (Binary64.round_nonneg (mul_nonneg (by norm_num) d.inSeconds_nonneg))
      (by norm_num)
  have hwait : (wait.inNanos : Rat) = Binary64.roundEven product := by
    rw [timesOneAndHalf?, ← hproduct] at h
    have hnanos := inNanos_of_ofParts? h
    have hrounded := Int.toNat_of_nonneg (Binary64.roundEven_nonneg hnonneg)
    rw [hnanos, zero_mul, zero_add]
    exact_mod_cast hrounded
  have hseconds := abs_le.1 d.inSeconds_error
  have hround := abs_le.1 (Binary64.round_error
    (mul_nonneg (by norm_num : (0 : Rat) ≤ 3 / 2) d.inSeconds_nonneg))
  have heven := abs_le.1 (Binary64.roundEven_error product)
  have hspan : (0 : Rat) ≤ d.inNanos := Nat.cast_nonneg _
  rw [hwait, abs_le]
  constructor <;> linarith

theorem inSeconds_mono {e : Duration} (hsecs : d.secs ≤ e.secs) (hnanos : d.nanos ≤ e.nanos) :
    d.inSeconds ≤ e.inSeconds := by
  have hwhole : Binary64.round (d.secs : Rat) ≤ Binary64.round e.secs :=
    Binary64.round_mono (by positivity) (by exact_mod_cast hsecs)
  have hpart : Binary64.round ((d.nanos : Rat) / 1000000000) ≤
      Binary64.round ((e.nanos : Rat) / 1000000000) :=
    Binary64.round_mono (by positivity)
      (div_le_div_of_nonneg_right (by exact_mod_cast hnanos) (by norm_num))
  exact Binary64.round_mono (add_nonneg (Binary64.round_nonneg (by positivity))
    (Binary64.round_nonneg (by positivity))) (add_le_add hwhole hpart)

/-- A longer span has no product when a shorter one has none. -/
theorem timesOneAndHalf?_eq_none_mono {e : Duration} (hsecs : d.secs ≤ e.secs)
    (hnanos : d.nanos ≤ e.nanos) (h : d.timesOneAndHalf? = none) : e.timesOneAndHalf? = none := by
  have hproduct : (Binary64.roundEven (Binary64.round (3 / 2 * d.inSeconds) * 1000000000)).toNat ≤
      (Binary64.roundEven (Binary64.round (3 / 2 * e.inSeconds) * 1000000000)).toNat := by
    apply Int.toNat_le_toNat
    apply Binary64.roundEven_mono
    refine mul_le_mul_of_nonneg_right ?_ (by norm_num)
    exact Binary64.round_mono (mul_nonneg (by norm_num) d.inSeconds_nonneg)
      (mul_le_mul_of_nonneg_left (inSeconds_mono hsecs hnanos) (by norm_num))
  rw [timesOneAndHalf?, ← Option.not_isSome_iff_eq_none, ofParts?_isSome_iff] at h ⊢
  omega

/-- The seconds from which on half again as much of a span is none, as it is computed. -/
def unscalableSecs : Nat := 12297829382473032705

theorem timesOneAndHalf?_eq_none_iff : d.timesOneAndHalf? = none ↔ unscalableSecs ≤ d.secs := by
  let shortest : Duration := ⟨unscalableSecs, 0, by decide, by decide⟩
  let longest : Duration := ⟨unscalableSecs - 1, 999999999, by decide, by decide⟩
  have hshortest : shortest.timesOneAndHalf? = none := by decide +kernel
  have hlongest : longest.timesOneAndHalf? ≠ none := by decide +kernel
  constructor
  · intro h
    by_contra hlt
    have hnanos : d.nanos ≤ longest.nanos := Nat.le_of_lt_succ d.nanos_lt
    exact hlongest (timesOneAndHalf?_eq_none_mono (Nat.le_sub_one_of_lt (not_le.1 hlt)) hnanos h)
  · intro h
    exact timesOneAndHalf?_eq_none_mono h (Nat.zero_le _) hshortest

end Duration

end ContainerFleet
