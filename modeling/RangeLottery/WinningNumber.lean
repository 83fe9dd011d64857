import RangeLottery.Amount
import RangeLottery.Hash.Sha256
import RangeLottery.Refusal

/-!
The winning number. The hash of the checkpoint is mixed with the key of the lottery, so that two
lotteries with one checkpoint do not share a number, and the mix is reduced to the numbers sold.
Main statement: a number is derived exactly when something was sold, and it is one of the numbers
sold.
-/

namespace RangeLottery.WinningNumber

/-- A number of 128 bits: the first sixteen bytes of the digest of the hash and the key. -/
def mix (hash lottery : Key) : Nat :=
  Bytes.toNat ((Sha256.hash (hash.bytes ++ lottery.bytes)).bytes.take 16)

/-- The winning number among the `sold` numbers of `lottery`. -/
def derive (hash lottery : Key) (sold : UInt64) : Except Refusal UInt64 :=
  if sold = 0 then .error .noTicketsSold
  else .ok (UInt64.ofNat (mix hash lottery % sold.toNat))

theorem mix_lt (hash lottery : Key) : mix hash lottery < Nat.pow 2 128 := by
  have bound := Bytes.toNat_lt ((Sha256.hash (hash.bytes ++ lottery.bytes)).bytes.take 16)
  simpa [mix] using bound

theorem derive_eq_ok_iff {hash lottery : Key} {sold number : UInt64} :
    derive hash lottery sold = .ok number ↔
      sold ≠ 0 ∧ number.toNat = mix hash lottery % sold.toNat := by
  unfold derive
  split
  · simp_all
  · rename_i positive
    have bound := Nat.mod_lt (mix hash lottery) (Amount.toNat_pos_iff.mpr positive)
    have width := sold.toNat_lt
    simp only [Except.ok.injEq, positive, ne_eq, not_false_eq_true, true_and, ← UInt64.toNat_inj,
      UInt64.toNat_ofNat']
    omega

end RangeLottery.WinningNumber
