import RangeLottery.Record.Lottery

/-!
When the operations on a lottery are granted, and what they leave. Every operation is characterized by
the conditions that it accepts, its answer and the record behind it; a record that can be stored is
left storable by each of them. A granted operation keeps the terms of the lottery, and a refused one
keeps everything.
-/

namespace RangeLottery

namespace Lottery

variable {l l' : Lottery} {id buyer : Key} {amount slot : UInt64}

theorem launch_eq_ok_iff {authority vault feeAccount mint : Key} {capacity deadline : UInt64} :
    launch authority vault feeAccount mint capacity deadline slot = .ok l ↔
      capacity ≠ 0 ∧ slot < deadline ∧
        l = { kind := .undrawn, authority, vault, feeAccount, capacity, deadline, number := 0,
              sold := 0, mint } := by
  unfold launch
  split
  · simp_all
  · split
    · rename_i late
      simp [UInt64.not_lt.mpr late]
    · rename_i positive early
      simp [positive, UInt64.not_le.mp early, eq_comm]

/-- A purchase is granted while the lottery sells, and takes the numbers behind those sold. -/
theorem issue_eq_ok_iff {t : Ticket} :
    l.issue id buyer amount slot = (.ok t, l') ↔
      l.kind = .undrawn ∧ slot < l.deadline ∧ amount ≠ 0 ∧
        l.sold.toNat + amount.toNat = t.stop.toNat ∧ t.stop ≤ l.capacity ∧
        t = ⟨id, buyer, l.sold, t.stop⟩ ∧ l' = { l with sold := t.stop } := by
  unfold issue
  split
  · rename_i closed
    simp only [Prod.mk.injEq, reduceCtorEq, false_and, false_iff]
    rintro ⟨undrawn, early, -⟩
    rcases closed with kind | late
    · exact kind undrawn
    · exact absurd early (UInt64.not_lt.mpr late)
  · rename_i open'
    obtain ⟨undrawn, early⟩ := not_or.mp open'
    have undrawn := Classical.not_not.mp undrawn
    have early := UInt64.not_le.mp early
    split
    · simp_all
    · rename_i positive
      split
      · rename_i overflow
        simp only [Prod.mk.injEq, reduceCtorEq, false_and, false_iff]
        rintro ⟨-, -, -, sum, -⟩
        have wide := Amount.add?_eq_none_iff.mp overflow
        rw [sum] at wide
        exact Nat.not_le_of_lt t.stop.toNat_lt_size wide
      · rename_i stop sum
        have sum := Amount.add?_eq_some_iff.mp sum
        split
        · rename_i exceeds
          simp only [Prod.mk.injEq, reduceCtorEq, false_and, false_iff]
          rintro ⟨-, -, -, sum', fits, -⟩
          have same : t.stop = stop := UInt64.toNat.inj (sum'.symm.trans sum)
          rw [same] at fits
          exact absurd exceeds (UInt64.not_lt.mpr fits)
        · rename_i fits
          constructor
          · intro granted
            cases granted
            exact ⟨undrawn, early, positive, sum, UInt64.not_lt.mp fits, rfl, rfl⟩
          · rintro ⟨-, -, -, sum', -, ticket, rfl⟩
            have same : t.stop = stop := UInt64.toNat.inj (sum'.symm.trans sum)
            rw [ticket, same]

/-- A purchase of at most as many numbers as are left is granted while the lottery sells. -/
theorem exists_issue (undrawn : l.kind = .undrawn) (early : slot < l.deadline) (positive : amount ≠ 0)
    (fits : l.sold.toNat + amount.toNat ≤ l.capacity.toNat) (id buyer : Key) :
    ∃ t, l.issue id buyer amount slot = (.ok t, { l with sold := t.stop }) ∧
      t = ⟨id, buyer, l.sold, t.stop⟩ ∧ t.stop.toNat = l.sold.toNat + amount.toNat := by
  have stop : (UInt64.ofNat (l.sold.toNat + amount.toNat)).toNat = l.sold.toNat + amount.toNat :=
    UInt64.toNat_ofNat_of_lt' (Nat.lt_of_le_of_lt fits l.capacity.toNat_lt_size)
  refine ⟨⟨id, buyer, l.sold, .ofNat (l.sold.toNat + amount.toNat)⟩, ?_, rfl, stop⟩
  exact issue_eq_ok_iff.mpr ⟨undrawn, early, positive, stop.symm,
    UInt64.le_iff_toNat_le.mpr (Nat.le_trans (Nat.le_of_eq stop) fits), rfl, rfl⟩

theorem readyToDraw_eq_ok_iff :
    l.readyToDraw slot = .ok () ↔ l.kind = .undrawn ∧ l.deadline ≤ slot ∧ l.sold ≠ 0 := by
  unfold readyToDraw
  split
  · rename_i undrawn
    split
    · rename_i early
      simp [UInt64.not_le.mpr early]
    · rename_i late
      split
      · simp_all
      · rename_i some
        simp [undrawn, UInt64.not_lt.mp late, some]
  all_goals simp_all

/-- A draw is granted once, after the deadline of a lottery that sold something, from a hash past the
deadline. -/
theorem draw_eq_ok_iff {sample : SlotHash} {number : UInt64} :
    l.draw id sample slot = (.ok number, l') ↔
      (l.kind = .undrawn ∧ l.deadline ≤ slot ∧ l.sold ≠ 0) ∧ l.deadline < sample.slot ∧
        WinningNumber.derive sample.hash id l.sold = .ok number ∧
        l' = { l with number, kind := .drawn } := by
  unfold draw
  rw [← readyToDraw_eq_ok_iff]
  cases ready : l.readyToDraw slot with
  | error reason => simp
  | ok _ =>
    by_cases stale : sample.slot ≤ l.deadline
    · simp [stale, UInt64.not_lt.mpr stale]
    · simp only [stale, if_false, UInt64.not_le.mp stale, true_and]
      cases derived : WinningNumber.derive sample.hash id l.sold with
      | error reason => simp
      | ok found =>
        constructor
        · intro granted
          cases granted
          exact ⟨rfl, rfl⟩
        · rintro ⟨same, rfl⟩
          cases same
          rfl

/-- A settlement is granted once, after the draw, for a ticket of the lottery that holds the winning
number. -/
theorem settle_eq_ok_iff {t : Ticket} {pool : UInt64} {payout : Payout} :
    l.settle id t pool = (.ok payout, l') ↔
      l.kind = .drawn ∧ t.lottery = id ∧ t.contains l.number = true ∧
        Payout.split pool Payout.feeRate = .ok payout ∧ l' = { l with kind := .settled } := by
  unfold settle
  split
  · rename_i drawn
    by_cases own : t.lottery = id
    · by_cases holds : t.contains l.number = true
      · cases divided : Payout.split pool Payout.feeRate with
        | error reason => simp [own, holds]
        | ok found =>
          simp only [drawn, own, holds, true_and, ne_eq, not_true_eq_false, if_false,
            Bool.true_eq_false]
          constructor
          · intro granted
            cases granted
            exact ⟨rfl, rfl⟩
          · rintro ⟨same, rfl⟩
            cases same
            rfl
      · simp [own, holds]
    · simp [own]
  all_goals simp_all

/-- A lottery is voided once, after its deadline, if it sold nothing. -/
theorem void_eq_ok_iff :
    l.void slot = (.ok (), l') ↔
      l.kind = .undrawn ∧ l.deadline ≤ slot ∧ l.sold = 0 ∧ l' = { l with kind := .voided } := by
  unfold void
  split
  · rename_i undrawn
    by_cases early : slot < l.deadline
    · simp [early, UInt64.not_le.mpr early]
    · by_cases unsold : l.sold = 0
      · simp [early, unsold, undrawn, UInt64.not_lt.mp early, eq_comm]
      · simp [early, unsold]
  all_goals simp_all

theorem authorize_eq_ok_iff {signer : Key} : l.authorize signer = .ok () ↔ signer = l.authority := by
  simp [authorize]

theorem winningNumber?_eq_some_iff {number : UInt64} :
    l.winningNumber? = some number ↔
      (l.kind = .drawn ∨ l.kind = .settled) ∧ l.number = number := by
  unfold winningNumber?
  cases kind : l.kind <;> simp

/-! ### What can be stored -/

theorem storable_of_launch {authority vault feeAccount mint : Key} {capacity deadline : UInt64}
    (granted : launch authority vault feeAccount mint capacity deadline slot = .ok l) :
    l.Storable := by
  obtain ⟨-, -, rfl⟩ := launch_eq_ok_iff.mp granted
  exact ⟨rfl, UInt64.zero_le⟩

theorem storable_of_issue {t : Ticket} (granted : l.issue id buyer amount slot = (.ok t, l')) :
    l'.Storable := by
  obtain ⟨undrawn, -, -, -, fits, -, rfl⟩ := issue_eq_ok_iff.mp granted
  exact ⟨by simp [undrawn, RecordKind.describesLottery], fits⟩

theorem storable_of_draw {sample : SlotHash} {number : UInt64} (storable : l.Storable)
    (granted : l.draw id sample slot = (.ok number, l')) : l'.Storable := by
  obtain ⟨-, -, -, rfl⟩ := draw_eq_ok_iff.mp granted
  exact ⟨rfl, storable.2⟩

theorem storable_of_settle {t : Ticket} {pool : UInt64} {payout : Payout} (storable : l.Storable)
    (granted : l.settle id t pool = (.ok payout, l')) : l'.Storable := by
  obtain ⟨-, -, -, -, rfl⟩ := settle_eq_ok_iff.mp granted
  exact ⟨rfl, storable.2⟩

theorem storable_of_void (storable : l.Storable) (granted : l.void slot = (.ok (), l')) :
    l'.Storable := by
  obtain ⟨-, -, -, rfl⟩ := void_eq_ok_iff.mp granted
  exact ⟨rfl, storable.2⟩

/-- The ticket of a granted purchase holds at least one number. -/
theorem start_lt_stop_of_issue {t : Ticket}
    (granted : l.issue id buyer amount slot = (.ok t, l')) : t.start < t.stop := by
  obtain ⟨-, -, positive, sum, -, ticket, -⟩ := issue_eq_ok_iff.mp granted
  have start : t.start = l.sold := by rw [ticket]
  have positive' := Amount.toNat_pos_iff.mpr positive
  rw [start, UInt64.lt_iff_toNat_lt]
  omega

/-- A granted purchase is of as many numbers as were asked for. -/
theorem size_of_issue {t : Ticket} (granted : l.issue id buyer amount slot = (.ok t, l')) :
    t.size = amount := by
  obtain ⟨-, -, -, sum, -, ticket, -⟩ := issue_eq_ok_iff.mp granted
  have start : t.start = l.sold := by rw [ticket]
  rw [Ticket.size, start, Amount.sub?_eq_some_iff.mpr (Nat.add_comm _ _ ▸ sum), Option.getD_some]

/-! ### Numbers sold -/

theorem sold_lt_of_issue {t : Ticket} (granted : l.issue id buyer amount slot = (.ok t, l')) :
    l.sold < l'.sold := by
  have nonempty := start_lt_stop_of_issue granted
  obtain ⟨-, -, -, -, -, ticket, rfl⟩ := issue_eq_ok_iff.mp granted
  rw [ticket] at nonempty
  exact nonempty

theorem sold_of_draw {sample : SlotHash} {number : UInt64}
    (granted : l.draw id sample slot = (.ok number, l')) : l'.sold = l.sold := by
  obtain ⟨-, -, -, rfl⟩ := draw_eq_ok_iff.mp granted
  rfl

theorem sold_of_settle {t : Ticket} {pool : UInt64} {payout : Payout}
    (granted : l.settle id t pool = (.ok payout, l')) : l'.sold = l.sold := by
  obtain ⟨-, -, -, -, rfl⟩ := settle_eq_ok_iff.mp granted
  rfl

theorem sold_of_void (granted : l.void slot = (.ok (), l')) : l'.sold = l.sold := by
  obtain ⟨-, -, -, rfl⟩ := void_eq_ok_iff.mp granted
  rfl

/-- The number drawn is one of the numbers sold. -/
theorem number_lt_sold_of_draw {sample : SlotHash} {number : UInt64}
    (granted : l.draw id sample slot = (.ok number, l')) : number < l.sold := by
  obtain ⟨-, -, derived, -⟩ := draw_eq_ok_iff.mp granted
  obtain ⟨positive, remainder⟩ := WinningNumber.derive_eq_ok_iff.mp derived
  rw [UInt64.lt_iff_toNat_lt, remainder]
  exact Nat.mod_lt _ (Amount.toNat_pos_iff.mpr positive)

/-! ### Terms -/

/-- The lotteries have the same terms: only how far they have come may differ. -/
def SameTerms (l l' : Lottery) : Prop :=
  l' = { l with kind := l'.kind, number := l'.number, sold := l'.sold }

namespace SameTerms

variable {l'' : Lottery}

protected theorem refl (l : Lottery) : l.SameTerms l :=
  rfl

protected theorem trans (first : l.SameTerms l') (second : l'.SameTerms l'') :
    l.SameTerms l'' := by
  unfold SameTerms at *
  rw [second, first]

theorem vault_eq (same : l.SameTerms l') : l'.vault = l.vault := by
  rw [same]

theorem feeAccount_eq (same : l.SameTerms l') : l'.feeAccount = l.feeAccount := by
  rw [same]

theorem mint_eq (same : l.SameTerms l') : l'.mint = l.mint := by
  rw [same]

theorem deadline_eq (same : l.SameTerms l') : l'.deadline = l.deadline := by
  rw [same]

theorem capacity_eq (same : l.SameTerms l') : l'.capacity = l.capacity := by
  rw [same]

end SameTerms

theorem sameTerms_of_issue {t : Ticket}
    (granted : l.issue id buyer amount slot = (.ok t, l')) : l.SameTerms l' := by
  obtain ⟨-, -, -, -, -, -, rfl⟩ := issue_eq_ok_iff.mp granted
  rfl

theorem sameTerms_of_draw {sample : SlotHash} {number : UInt64}
    (granted : l.draw id sample slot = (.ok number, l')) : l.SameTerms l' := by
  obtain ⟨-, -, -, rfl⟩ := draw_eq_ok_iff.mp granted
  rfl

theorem sameTerms_of_settle {t : Ticket} {pool : UInt64} {payout : Payout}
    (granted : l.settle id t pool = (.ok payout, l')) : l.SameTerms l' := by
  obtain ⟨-, -, -, -, rfl⟩ := settle_eq_ok_iff.mp granted
  rfl

theorem sameTerms_of_void (granted : l.void slot = (.ok (), l')) : l.SameTerms l' := by
  obtain ⟨-, -, -, rfl⟩ := void_eq_ok_iff.mp granted
  rfl

/-! ### Refusals

A refused operation leaves the record as it was. -/

theorem eq_of_issue_refused {reason : Refusal}
    (refused : l.issue id buyer amount slot = (.error reason, l')) : l' = l := by
  unfold issue at refused
  repeat' split at refused
  all_goals cases refused
  all_goals rfl

theorem eq_of_draw_refused {sample : SlotHash} {reason : Refusal}
    (refused : l.draw id sample slot = (.error reason, l')) : l' = l := by
  unfold draw at refused
  repeat' split at refused
  all_goals cases refused
  all_goals rfl

theorem eq_of_settle_refused {t : Ticket} {pool : UInt64} {reason : Refusal}
    (refused : l.settle id t pool = (.error reason, l')) : l' = l := by
  unfold settle at refused
  repeat' split at refused
  all_goals cases refused
  all_goals rfl

theorem eq_of_void_refused {reason : Refusal} (refused : l.void slot = (.error reason, l')) :
    l' = l := by
  unfold void at refused
  repeat' split at refused
  all_goals cases refused
  all_goals rfl

end Lottery

end RangeLottery
