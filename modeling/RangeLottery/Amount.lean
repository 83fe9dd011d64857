/-!
Checked arithmetic on 64-bit amounts. Token amounts, lamports, ticket numbers and slots are words
that must never wrap, so every operation here gives its exact result or nothing.
-/

namespace RangeLottery.Amount

/-- `n` as a 64-bit amount, if it is one. -/
def ofNat? (n : Nat) : Option UInt64 :=
  if n < UInt64.size then some (UInt64.ofNat n) else none

/-- The exact sum, if it is a 64-bit amount. -/
def add? (a b : UInt64) : Option UInt64 :=
  ofNat? (a.toNat + b.toNat)

/-- The exact difference, if `b` is at most `a`. -/
def sub? (a b : UInt64) : Option UInt64 :=
  if b ≤ a then some (a - b) else none

/-- The next number, or the greatest one again. -/
def succSaturating (a : UInt64) : UInt64 :=
  (add? a 1).getD a

theorem toNat_pos_iff {a : UInt64} : 0 < a.toNat ↔ a ≠ 0 := by
  rw [Nat.pos_iff_ne_zero, ne_eq, ne_eq, ← UInt64.toNat_inj]
  rfl

theorem ofNat?_eq_some_iff {n : Nat} {a : UInt64} : ofNat? n = some a ↔ n = a.toNat := by
  unfold ofNat?
  constructor
  · intro fits
    split at fits
    · rename_i bound
      obtain rfl := Option.some.inj fits
      exact (Nat.mod_eq_of_lt bound).symm
    · simp at fits
  · rintro rfl
    simp [a.toNat_lt_size]

theorem ofNat?_eq_none_iff {n : Nat} : ofNat? n = none ↔ UInt64.size ≤ n := by
  unfold ofNat?
  split
  · rename_i bound
    simp [bound]
  · rename_i bound
    simp [Nat.le_of_not_lt bound]

theorem add?_eq_some_iff {a b c : UInt64} : add? a b = some c ↔ a.toNat + b.toNat = c.toNat :=
  ofNat?_eq_some_iff

theorem add?_eq_none_iff {a b : UInt64} : add? a b = none ↔ UInt64.size ≤ a.toNat + b.toNat :=
  ofNat?_eq_none_iff

theorem sub?_eq_some_iff {a b c : UInt64} : sub? a b = some c ↔ c.toNat + b.toNat = a.toNat := by
  unfold sub?
  split
  · rename_i atMost
    have atMost' := UInt64.le_iff_toNat_le.mp atMost
    rw [Option.some.injEq, ← UInt64.toNat_inj, UInt64.toNat_sub_of_le a b atMost]
    omega
  · rename_i above
    have above' := mt UInt64.le_iff_toNat_le.mpr above
    simp only [reduceCtorEq, false_iff]
    omega

theorem sub?_eq_none_iff {a b : UInt64} : sub? a b = none ↔ a < b := by
  unfold sub?
  rw [UInt64.lt_iff_toNat_lt]
  split
  · rename_i atMost
    have atMost' := UInt64.le_iff_toNat_le.mp atMost
    simp only [reduceCtorEq, false_iff]
    omega
  · rename_i above
    have above' := mt UInt64.le_iff_toNat_le.mpr above
    simp only [true_iff]
    omega

end RangeLottery.Amount
