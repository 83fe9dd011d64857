import RangeLottery.Amount
import RangeLottery.Refusal

/-!
The division of the custody balance at settlement. The fee is a share in basis points, rounded
down, and the winner has the rest. Main statement: the product of a balance and a rate stays within
128 bits, so the fee is computed exactly.
-/

namespace RangeLottery

structure Payout where
  winner : UInt64
  fee : UInt64
  deriving DecidableEq, Repr

namespace Payout

/-- The share of the balance that the fee takes, in basis points. -/
def feeRate : UInt64 :=
  500

/-- The basis points in a whole. -/
def wholeRate : UInt64 :=
  10000

/-- Divides `balance`, with `rate` basis points of it for the fee. -/
def split (balance rate : UInt64) : Except Refusal Payout :=
  match Amount.ofNat? (balance.toNat * rate.toNat / wholeRate.toNat) with
  | none => .error .arithmeticOverflow
  | some fee =>
    match Amount.sub? balance fee with
    | none => .error .arithmeticOverflow
    | some winner => .ok ⟨winner, fee⟩

/-- What was divided. -/
def total (p : Payout) : Except Refusal UInt64 :=
  (Amount.add? p.winner p.fee).elim (.error .arithmeticOverflow) .ok

theorem product_lt (balance rate : UInt64) :
    balance.toNat * rate.toNat < UInt64.size * UInt64.size :=
  Nat.mul_lt_mul'' balance.toNat_lt_size rate.toNat_lt_size

end Payout

end RangeLottery
