import RangeLottery.Proofs.Record.Payout

/-!
The fee as a share of the balance, for every balance and every rate. The share is found in words of 128
bits, by a multiplication and a division that are checked, and is brought back to 64 bits. Main statement:
the two wide operations never fail, so a division of the balance fails only where the share is more than
the balance, and otherwise the fee is the share rounded down and the winner has the rest. At rates up to the
whole both parts grow with the balance, and rounding takes at most one unit from the fee of a balance that
is divided in two.
-/

namespace RangeLottery

namespace Amount

variable {x y z : BitVec 128}

/-! ### Words of 128 bits -/

/-- The amount as a word of 128 bits. -/
def widen (a : UInt64) : BitVec 128 :=
  a.toBitVec.setWidth 128

/-- The exact product, if it is a word of 128 bits. -/
def wideMul? (x y : BitVec 128) : Option (BitVec 128) :=
  if x.umulOverflow y then none else some (x * y)

/-- The quotient rounded down, unless the divisor is zero. -/
def wideDiv? (x y : BitVec 128) : Option (BitVec 128) :=
  if y = 0 then none else some (x / y)

/-- The word as an amount, if it is one. -/
def narrow? (x : BitVec 128) : Option UInt64 :=
  ofNat? x.toNat

@[simp] theorem toNat_widen (a : UInt64) : (widen a).toNat = a.toNat := by
  have bound : a.toNat < 2 ^ 128 := Nat.lt_trans a.toNat_lt (by decide)
  rw [widen, BitVec.toNat_setWidth, UInt64.toNat_toBitVec, Nat.mod_eq_of_lt bound]

theorem wideMul?_eq_some_iff : wideMul? x y = some z ↔ z.toNat = x.toNat * y.toNat := by
  unfold wideMul?
  constructor
  · intro product
    split at product
    · cases product
    · rename_i fits
      obtain rfl := Option.some.inj product
      exact BitVec.toNat_mul_of_not_umulOverflow fits
  · intro exact
    have fits : ¬ x.umulOverflow y = true := by
      simp only [BitVec.umulOverflow, ← exact, decide_eq_true_eq]
      exact Nat.not_le.mpr z.isLt
    rw [if_neg fits, Option.some.injEq, ← BitVec.toNat_inj,
      BitVec.toNat_mul_of_not_umulOverflow fits, exact]

theorem wideDiv?_eq_some_iff : wideDiv? x y = some z ↔ y ≠ 0 ∧ z.toNat = x.toNat / y.toNat := by
  unfold wideDiv?
  split
  · rename_i zero
    simp [zero]
  · rename_i divisor
    rw [Option.some.injEq, ← BitVec.toNat_inj, BitVec.toNat_udiv, and_iff_right divisor]
    exact eq_comm

/-- Two amounts are multiplied without overflow. -/
theorem exists_wideMul? (a b : UInt64) :
    ∃ product, wideMul? (widen a) (widen b) = some product ∧
      product.toNat = a.toNat * b.toNat := by
  have fits : a.toNat * b.toNat < 2 ^ 128 :=
    calc a.toNat * b.toNat
      _ < UInt64.size * UInt64.size := Payout.product_lt a b
      _ = 2 ^ 128 := by decide
  have exact : (BitVec.ofNat 128 (a.toNat * b.toNat)).toNat = a.toNat * b.toNat := by
    rw [BitVec.toNat_ofNat, Nat.mod_eq_of_lt fits]
  refine ⟨_, wideMul?_eq_some_iff.mpr ?_, exact⟩
  rw [exact, toNat_widen, toNat_widen]

end Amount

namespace Payout

variable {balance balance' rate first second both : UInt64}

/-! ### The share -/

/-- The share of `rate` basis points in the balance, rounded down. -/
def share (balance rate : UInt64) : Nat :=
  balance.toNat * rate.toNat / 10000

theorem share_mono (rate : UInt64) (atMost : balance ≤ balance') : share balance rate ≤ share balance' rate :=
  Nat.div_le_div_right (Nat.mul_le_mul_right _ (UInt64.le_iff_toNat_le.mp atMost))

/-- Two shares lose at most one unit against the share in both balances. -/
theorem share_add (rate : UInt64) (sum : first.toNat + second.toNat = both.toNat) :
    share first rate + share second rate ≤ share both rate ∧
      share both rate ≤ share first rate + share second rate + 1 := by
  unfold share
  rw [← sum, Nat.add_mul]
  omega

/-- Up to the whole, the share grows by no more than the balance. -/
theorem share_le_add (within : rate ≤ wholeRate) (atMost : balance ≤ balance') :
    share balance' rate + balance.toNat ≤ share balance rate + balance'.toNat := by
  have within' : rate.toNat ≤ 10000 := UInt64.le_iff_toNat_le.mp within
  obtain ⟨more, grown⟩ := Nat.exists_eq_add_of_le (UInt64.le_iff_toNat_le.mp atMost)
  have scaled : more * rate.toNat ≤ more * 10000 := Nat.mul_le_mul_left more within'
  unfold share
  rw [grown, Nat.add_mul]
  omega

/-! ### The division -/

/-- What a checked step gave, or a refusal if it had no exact result. -/
def exactly {α : Type} (result : Option α) : Except Refusal α :=
  result.elim (.error .arithmeticOverflow) .ok

@[simp] theorem exactly_some_bind {α β : Type} (a : α) (f : α → Except Refusal β) :
    (exactly (some a) >>= f) = f a :=
  rfl

/-- Divides `balance` in checked steps, of which the first two are in words of 128 bits. -/
def splitInSteps (balance rate : UInt64) : Except Refusal Payout := do
  let product ← exactly (Amount.wideMul? (Amount.widen balance) (Amount.widen rate))
  let quotient ← exactly (Amount.wideDiv? product (Amount.widen wholeRate))
  let fee ← exactly (Amount.narrow? quotient)
  let winner ← exactly (Amount.sub? balance fee)
  return ⟨winner, fee⟩

/-- The wide steps succeed, and they give the share. -/
theorem exists_quotient (balance rate : UInt64) :
    ∃ product quotient,
      Amount.wideMul? (Amount.widen balance) (Amount.widen rate) = some product ∧
        Amount.wideDiv? product (Amount.widen wholeRate) = some quotient ∧
          quotient.toNat = share balance rate := by
  have whole : (Amount.widen wholeRate).toNat = 10000 := Amount.toNat_widen wholeRate
  obtain ⟨product, multiplied, exact⟩ := Amount.exists_wideMul? balance rate
  have divided : (product / Amount.widen wholeRate).toNat = share balance rate := by
    rw [BitVec.toNat_udiv, whole, exact, share]
  refine ⟨product, _, multiplied, Amount.wideDiv?_eq_some_iff.mpr ⟨by decide, ?_⟩, divided⟩
  rw [BitVec.toNat_udiv]

/-- The checked steps divide as the exact numbers do. -/
theorem splitInSteps_eq (balance rate : UInt64) : splitInSteps balance rate = split balance rate := by
  obtain ⟨product, quotient, multiplied, divided, exact⟩ := exists_quotient balance rate
  have narrowed : Amount.narrow? quotient =
      Amount.ofNat? (balance.toNat * rate.toNat / wholeRate.toNat) := by
    rw [Amount.narrow?, exact, share]
    rfl
  rw [splitInSteps, multiplied, exactly_some_bind, divided, exactly_some_bind, narrowed, split]
  cases Amount.ofNat? (balance.toNat * rate.toNat / wholeRate.toNat) with
  | none => rfl
  | some fee =>
    dsimp only [exactly_some_bind]
    cases Amount.sub? balance fee <;> rfl

/-- A division fails only where the share is more than the balance. -/
theorem split_eq_error_iff {reason : Refusal} :
    split balance rate = .error reason ↔
      reason = .arithmeticOverflow ∧ balance.toNat < share balance rate := by
  have width := balance.toNat_lt_size
  have share_eq : balance.toNat * rate.toNat / wholeRate.toNat = share balance rate := rfl
  rw [split, share_eq]
  cases narrowed : Amount.ofNat? (share balance rate) with
  | none =>
    have wide := Amount.ofNat?_eq_none_iff.mp narrowed
    simp [Nat.lt_of_lt_of_le width wide, eq_comm]
  | some fee =>
    rw [Amount.ofNat?_eq_some_iff.mp narrowed, ← UInt64.lt_iff_toNat_lt, ← Amount.sub?_eq_none_iff]
    dsimp only
    cases Amount.sub? balance fee with
    | none => simp [eq_comm]
    | some winner => simp

theorem exists_split_iff :
    (∃ payout, split balance rate = .ok payout) ↔ share balance rate ≤ balance.toNat := by
  cases divided : split balance rate with
  | ok payout =>
    obtain ⟨fee, whole⟩ := split_eq_ok_iff.mp divided
    rw [share, ← fee, ← whole]
    simp
  | error reason =>
    have more := (split_eq_error_iff.mp divided).2
    simp [Nat.not_le.mpr more]

/-! ### Exactness -/

/-- The division of `balance` at `rate` basis points is exact, or it is refused because the share is more
than the balance. -/
structure DividesExactly (balance rate : UInt64) : Prop where
  wide : ∃ product quotient,
    Amount.wideMul? (Amount.widen balance) (Amount.widen rate) = some product ∧
      Amount.wideDiv? product (Amount.widen wholeRate) = some quotient ∧
        quotient.toNat = share balance rate
  steps : splitInSteps balance rate = split balance rate
  granted : (∃ payout, split balance rate = .ok payout) ↔ share balance rate ≤ balance.toNat
  refused : ¬ share balance rate ≤ balance.toNat → split balance rate = .error .arithmeticOverflow
  parts : ∀ payout, split balance rate = .ok payout →
    payout.fee.toNat = share balance rate ∧
      payout.winner.toNat + payout.fee.toNat = balance.toNat ∧ payout.total = .ok balance

/-- At `rate` basis points every balance is divided, and both parts grow with the balance. -/
structure DividesFairly (rate : UInt64) : Prop where
  divides : ∀ balance, ∃ payout, split balance rate = .ok payout
  grows : ∀ balance balance' payout payout', balance ≤ balance' →
    split balance rate = .ok payout → split balance' rate = .ok payout' →
      payout.fee ≤ payout'.fee ∧ payout.winner ≤ payout'.winner

/-- The fee of two balances together is the sum of their fees, or one unit more. -/
def RoundsOnce (rate : UInt64) : Prop :=
  ∀ first second both payout payout' payout'', first.toNat + second.toNat = both.toNat →
    split first rate = .ok payout → split second rate = .ok payout' →
      split both rate = .ok payout'' →
        payout.fee.toNat + payout'.fee.toNat ≤ payout''.fee.toNat ∧
          payout''.fee.toNat ≤ payout.fee.toNat + payout'.fee.toNat + 1

theorem dividesExactly (balance rate : UInt64) : DividesExactly balance rate where
  wide := exists_quotient balance rate
  steps := splitInSteps_eq balance rate
  granted := exists_split_iff
  refused more := split_eq_error_iff.mpr ⟨rfl, Nat.not_le.mp more⟩
  parts payout divided := by
    obtain ⟨fee, whole⟩ := split_eq_ok_iff.mp divided
    exact ⟨fee, whole, total_eq_ok_iff.mpr whole⟩

theorem dividesFairly (within : rate ≤ wholeRate) : DividesFairly rate where
  divides balance := exists_split balance within
  grows balance balance' payout payout' atMost divided divided' := by
    obtain ⟨fee, whole⟩ := split_eq_ok_iff.mp divided
    obtain ⟨fee', whole'⟩ := split_eq_ok_iff.mp divided'
    have more := share_mono rate atMost
    have rest := share_le_add within atMost
    rw [share, share, ← fee, ← fee'] at more rest
    exact ⟨UInt64.le_iff_toNat_le.mpr more, UInt64.le_iff_toNat_le.mpr (by omega)⟩

theorem roundsOnce (rate : UInt64) : RoundsOnce rate := by
  intro first second both payout payout' payout'' sum divided divided' divided''
  have shares := share_add rate sum
  rw [(split_eq_ok_iff.mp divided).1, (split_eq_ok_iff.mp divided').1,
    (split_eq_ok_iff.mp divided'').1]
  exact shares

/-- For every balance and every rate the division is exact or the share is more than the balance, and up
to the whole it never is. The fee and the winner's part grow with the balance then, and a balance divided
in two pays the same fee but for one unit at most. -/
theorem split_exact (rate : UInt64) :
    (∀ balance, DividesExactly balance rate) ∧ RoundsOnce rate ∧
      (rate ≤ wholeRate → DividesFairly rate) :=
  ⟨fun balance => dividesExactly balance rate, roundsOnce rate, dividesFairly⟩

/-- The rate of the fee is below the whole. At twice the whole, the share of a hundred is two hundred. -/
theorem split_exact_at_fee_rate :
    feeRate ≤ wholeRate ∧ DividesFairly feeRate ∧ share 39 feeRate = 1 ∧
      (∃ payout, split 39 feeRate = .ok payout) ∧
      split 100 20000 = .error .arithmeticOverflow := by
  have within : feeRate ≤ wholeRate := by decide
  obtain ⟨exactly, -, fairly⟩ := split_exact feeRate
  obtain ⟨exactly', -, -⟩ := split_exact 20000
  exact ⟨within, fairly within, by decide, (exactly 39).granted.mpr (by decide),
    (exactly' 100).refused (by decide)⟩

end Payout

end RangeLottery
