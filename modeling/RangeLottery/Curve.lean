import RangeLottery.Key

/-!
Membership in the curve of ed25519, `-x² + y² = 1 + d x² y²` over the integers modulo `2²⁵⁵ - 19`,
whose points are written as their `y` coordinate. An address that is no point has no private key,
which is what makes it safe to derive one for a program.
-/

namespace RangeLottery.Curve

/-- The prime of the field. -/
def prime : Nat :=
  Nat.pow 2 255 - 19

/-- The coefficient `d`, which is `-121665 / 121666` in the field. -/
def coefficient : Nat :=
  37095705934669439343138083508754565189542113879843219016388785533085940283555

/-- `base ^ exponent` modulo `modulus`, for an exponent of at most `bits` bits, by squaring. -/
def powMod (modulus : Nat) : Nat → Nat → Nat → Nat
  | 0, _, _ => 1 % modulus
  | bits + 1, base, exponent =>
    let rest := powMod modulus bits (base * base % modulus) (exponent / 2)
    if exponent % 2 = 1 then base * rest % modulus else rest

/-- Whether some point has the `y` coordinate that `k` writes, least significant byte first and
with the sign of `x` in the top bit. The curve asks that `x² = (y² - 1) / (d y² + 1)`, where the
denominator is never zero. Such an `x` exists exactly when the product of numerator and denominator
has a square root, and that is so when its power to `(p - 1) / 2` is zero or one. -/
def isPoint (k : Key) : Bool :=
  let y := Bytes.toNat k.bytes % Nat.pow 2 255 % prime
  let numerator := y * y + (prime - 1)
  let denominator := coefficient * (y * y) + 1
  let residue := powMod prime 255 (numerator * denominator % prime) ((prime - 1) / 2)
  residue == 0 || residue == 1

end RangeLottery.Curve
