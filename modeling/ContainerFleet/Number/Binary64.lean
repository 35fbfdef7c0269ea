/-!
Rounding to the numbers of binary floating point with 53 digits, for ratios that are not negative
and lie in its normal range.
-/

namespace ContainerFleet.Binary64

/-- The nearest whole number; a half goes to the even one. -/
def roundEven (q : Rat) : Int :=
  let below := q.floor
  let rest := q - below
  if rest < 1 / 2 then below
  else if 1 / 2 < rest then below + 1
  else if below % 2 = 0 then below else below + 1

/-- A power of two. -/
def power : Int → Rat
  | .ofNat n => (Nat.pow 2 n : Rat)
  | .negSucc n => 1 / (Nat.pow 2 (n + 1) : Rat)

/-- The exponent of the largest power of two that a positive ratio reaches. -/
def exponent (q : Rat) : Int :=
  let guess := (q.num.toNat.log2 : Int) - q.den.log2
  if power guess ≤ q then guess else guess - 1

/-- The nearest number with 53 binary digits; a tie goes to the even one. -/
def round (q : Rat) : Rat :=
  if q = 0 then 0
  else
    let unit := power (exponent q - 52)
    roundEven (q / unit) * unit

end ContainerFleet.Binary64
