import RangeLottery.Payout

/-!
The division of a balance, in exact numbers: the fee is the share rounded down, and the winner has the
rest.
-/

namespace RangeLottery.Payout

variable {balance rate : UInt64} {payout : Payout}

theorem split_eq_ok_iff :
    split balance rate = .ok payout ↔
      payout.fee.toNat = balance.toNat * rate.toNat / 10000 ∧
        payout.winner.toNat + payout.fee.toNat = balance.toNat := by
  have whole : wholeRate.toNat = 10000 := rfl
  unfold split
  rw [whole]
  constructor
  · intro divided
    split at divided
    · cases divided
    · rename_i fee share
      split at divided
      · cases divided
      · rename_i winner rest
        cases divided
        exact ⟨(Amount.ofNat?_eq_some_iff.mp share).symm, Amount.sub?_eq_some_iff.mp rest⟩
  · rintro ⟨share, rest⟩
    rw [← share, Amount.ofNat?_eq_some_iff.mpr rfl]
    dsimp only
    rw [Amount.sub?_eq_some_iff.mpr rest]

theorem total_eq_ok_iff {total : UInt64} :
    payout.total = .ok total ↔ payout.winner.toNat + payout.fee.toNat = total.toNat := by
  rw [← Amount.add?_eq_some_iff]
  unfold Payout.total
  cases Amount.add? payout.winner payout.fee <;> simp

/-- A share of at most the whole can be divided off every balance. -/
theorem exists_split (balance : UInt64) (within : rate ≤ wholeRate) :
    ∃ payout, split balance rate = .ok payout := by
  have share : balance.toNat * rate.toNat / 10000 ≤ balance.toNat := by
    apply Nat.div_le_of_le_mul
    rw [Nat.mul_comm]
    exact Nat.mul_le_mul_right _ (UInt64.le_iff_toNat_le.mp within)
  have width := balance.toNat_lt
  refine ⟨⟨UInt64.ofNat (balance.toNat - balance.toNat * rate.toNat / 10000),
    UInt64.ofNat (balance.toNat * rate.toNat / 10000)⟩, split_eq_ok_iff.mpr ?_⟩
  simp only [UInt64.toNat_ofNat']
  omega

end RangeLottery.Payout
