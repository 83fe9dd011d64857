import RangeLottery.Proofs.Record.Codec
import RangeLottery.Proofs.Record.Lifecycle
import RangeLottery.Proofs.Record.Payout
import RangeLottery.Proofs.Record.Tiling

/-!
What the phase says of the operations. The phase of a lottery is read off its record and the slot, while each
operation has guards of its own; here the guards are said in phases. Main statement: on a record that can be
stored they agree. A lottery that sells grants the purchases of up to what is left of its capacity, a closed
one grants a draw or a voiding from its deadline on, a drawn one grants the settlement to the holder of its
number whatever the balance is, and nothing else is ever granted.
-/

namespace RangeLottery

namespace Lottery

variable {bytes : Bytes} {l : Lottery} {id buyer : Key} {amount slot slot' balance : UInt64}
  {sample : SlotHash} {t : Ticket} {operation : Operation}

/-- The operation is tried at the slot. A settlement does not ask for the slot. -/
def Operation.At (slot : UInt64) : Operation → Prop
  | .issue _ _ _ slot' => slot' = slot
  | .draw _ _ slot' => slot' = slot
  | .settle .. => True
  | .void slot' => slot' = slot

theorem Operation.exists_at (operation : Operation) : ∃ slot, operation.At slot := by
  cases operation with
  | issue id buyer amount slot => exact ⟨slot, rfl⟩
  | draw id sample slot => exact ⟨slot, rfl⟩
  | settle id t balance => exact ⟨0, trivial⟩
  | void slot => exact ⟨slot, rfl⟩

/-- The operation is granted. -/
def Accepts (l : Lottery) (operation : Operation) : Prop :=
  ∃ answer, (l.perform operation).1 = .ok answer

theorem exists_answered_iff {α : Type} {answer : α → Answer} {outcome : Except Refusal α × Lottery} :
    (∃ given, (answered answer outcome).1 = .ok given) ↔ ∃ given l', outcome = (.ok given, l') := by
  obtain ⟨reason | given, l'⟩ := outcome
  · constructor
    · rintro ⟨_, refused⟩
      cases refused
    · rintro ⟨_, _, refused⟩
      cases refused
  · exact ⟨fun _ => ⟨given, l', rfl⟩, fun _ => ⟨answer given, rfl⟩⟩

/-! ### Phases and kinds -/

section Stored

variable (storable : l.Storable)

include storable

theorem phase_eq_selling_iff :
    l.phase slot = .selling ↔ l.kind = .undrawn ∧ slot < l.deadline ∧ l.sold < l.capacity := by
  have described := storable.1
  unfold phase
  cases kind : l.kind <;> simp_all [RecordKind.describesLottery, UInt64.not_le]

theorem phase_eq_closed_iff :
    l.phase slot = .closed ↔ l.kind = .undrawn ∧ (l.deadline ≤ slot ∨ l.capacity ≤ l.sold) := by
  have described := storable.1
  unfold phase
  by_cases closed : l.deadline ≤ slot ∨ l.capacity ≤ l.sold
  all_goals cases kind : l.kind <;> simp_all [RecordKind.describesLottery]

/-! ### The guards of the operations -/

/-- Purchases of at least one number and at most as many as are left are granted while the lottery
sells. -/
theorem accepts_issue_iff :
    l.Accepts (.issue id buyer amount slot) ↔
      l.phase slot = .selling ∧ 1 ≤ amount.toNat ∧ amount.toNat ≤ l.capacity.toNat - l.sold.toNat := by
  have positive : amount ≠ 0 ↔ 1 ≤ amount.toNat := Amount.toNat_pos_iff.symm
  have within := UInt64.le_iff_toNat_le.mp storable.2
  simp only [Accepts, perform, exists_answered_iff, phase_eq_selling_iff storable]
  constructor
  · rintro ⟨t, l', granted⟩
    obtain ⟨undrawn, early, some, sum, fits, -, -⟩ := issue_eq_ok_iff.mp granted
    rw [positive] at some
    rw [UInt64.le_iff_toNat_le] at fits
    exact ⟨⟨undrawn, early, UInt64.lt_iff_toNat_lt.mpr (by omega)⟩, some, by omega⟩
  · rintro ⟨⟨undrawn, early, -⟩, some, fits⟩
    obtain ⟨t, granted, -⟩ := exists_issue undrawn early (positive.mpr some) (by omega) id buyer
    exact ⟨t, _, granted⟩

theorem accepts_draw_iff :
    l.Accepts (.draw id sample slot) ↔
      l.phase slot = .closed ∧ l.deadline ≤ slot ∧ l.sold ≠ 0 ∧ l.deadline < sample.slot := by
  simp only [Accepts, perform, exists_answered_iff, draw_eq_ok_iff, phase_eq_closed_iff storable]
  constructor
  · rintro ⟨number, l', ⟨undrawn, due, sold⟩, younger, -, -⟩
    exact ⟨⟨undrawn, .inl due⟩, due, sold, younger⟩
  · rintro ⟨⟨undrawn, -⟩, due, sold, younger⟩
    exact ⟨_, _, ⟨undrawn, due, sold⟩, younger, if_neg sold, rfl⟩

theorem accepts_void_iff :
    l.Accepts (.void slot) ↔ l.phase slot = .closed ∧ l.deadline ≤ slot ∧ l.sold = 0 := by
  simp only [Accepts, perform, exists_answered_iff, phase_eq_closed_iff storable]
  constructor
  · rintro ⟨_, l', voided⟩
    obtain ⟨undrawn, due, unsold, -⟩ := void_eq_ok_iff.mp voided
    exact ⟨⟨undrawn, .inl due⟩, due, unsold⟩
  · rintro ⟨⟨undrawn, -⟩, due, unsold⟩
    exact ⟨(), _, void_eq_ok_iff.mpr ⟨undrawn, due, unsold, rfl⟩⟩

end Stored

theorem phase_eq_drawn_iff : l.phase slot = .drawn ↔ l.kind = .drawn := by
  unfold phase
  cases kind : l.kind <;> simp <;> split <;> simp

/-- The settlement of a drawn lottery is granted to the ticket that holds the number, since every balance can
be divided. -/
theorem accepts_settle_iff :
    l.Accepts (.settle id t balance) ↔
      l.phase slot = .drawn ∧ t.lottery = id ∧ t.start ≤ l.number ∧ l.number < t.stop := by
  simp only [Accepts, perform, exists_answered_iff, settle_eq_ok_iff, phase_eq_drawn_iff,
    Ticket.contains_iff]
  constructor
  · rintro ⟨payout, l', drawn, own, holds, -, -⟩
    exact ⟨drawn, own, holds⟩
  · rintro ⟨drawn, own, holds⟩
    have within : Payout.feeRate ≤ Payout.wholeRate := by decide
    obtain ⟨payout, split⟩ := Payout.exists_split balance within
    exact ⟨payout, _, drawn, own, holds, split, rfl⟩

/-! ### What the phase decides -/

/-- From the draw or the voiding on, the phase does not change with time. -/
theorem phase_eq_of_final (final : l.phase slot ∈ [.drawn, .settled, .voided]) (slot' : UInt64) :
    l.phase slot' = l.phase slot := by
  unfold phase at *
  cases kind : l.kind with
  | uninitialized | undrawn | ticket =>
    rw [kind] at final
    dsimp only at final
    split at final <;> simp at final
  | drawn | settled | voided => rfl

/-- The phases in which an operation is granted, by what it is for. -/
theorem Accepts.phase_cases (accepts : l.Accepts operation) (storable : l.Storable)
    (timed : operation.At slot) :
    (l.phase slot = .selling ∧ operation.act = .sale) ∨
      (l.phase slot = .closed ∧ l.deadline ≤ slot ∧ operation.act ∈ [.draw, .voiding]) ∨
        (l.phase slot = .drawn ∧ operation.act = .settlement) := by
  cases operation with
  | issue id buyer amount slot' =>
    obtain rfl : slot' = slot := timed
    exact .inl ⟨((accepts_issue_iff storable).mp accepts).1, rfl⟩
  | draw id sample slot' =>
    obtain rfl : slot' = slot := timed
    obtain ⟨closed, due, -⟩ := (accepts_draw_iff storable).mp accepts
    exact .inr (.inl ⟨closed, due, by simp [Operation.act]⟩)
  | settle id t balance => exact .inr (.inr ⟨(accepts_settle_iff.mp accepts).1, rfl⟩)
  | void slot' =>
    obtain rfl : slot' = slot := timed
    obtain ⟨closed, due, -⟩ := (accepts_void_iff storable).mp accepts
    exact .inr (.inl ⟨closed, due, by simp [Operation.act]⟩)

/-- After the draw or the voiding only a drawn lottery grants anything, at whatever slot, and that is the
settlement. -/
theorem Accepts.settlement (accepts : l.Accepts operation) (storable : l.Storable)
    (final : l.phase slot ∈ [.drawn, .settled, .voided]) :
    l.phase slot = .drawn ∧ operation.act = .settlement := by
  obtain ⟨slot', timed⟩ := operation.exists_at
  have phases := accepts.phase_cases storable timed
  rw [phase_eq_of_final final slot'] at phases
  rcases phases with ⟨selling, -⟩ | ⟨closed, -⟩ | drawn
  · simp [selling] at final
  · simp [closed] at final
  · exact drawn

/-- The phase of the lottery at `slot` says which operations are granted at that slot, and with which
arguments. -/
structure PhaseDecides (l : Lottery) (slot : UInt64) : Prop where
  selling_iff : ∀ id buyer,
    l.phase slot = .selling ↔ ∃ amount, l.Accepts (.issue id buyer amount slot)
  selling : l.phase slot = .selling → ∀ id buyer amount, l.Accepts (.issue id buyer amount slot) ↔
    1 ≤ amount.toNat ∧ amount.toNat ≤ l.capacity.toNat - l.sold.toNat
  selling_only : l.phase slot = .selling → ∀ operation, operation.At slot → l.Accepts operation →
    operation.act = .sale
  closed_only : l.phase slot = .closed → ∀ operation, operation.At slot → l.Accepts operation →
    operation.act ∈ [.draw, .voiding]
  /-- Sold out before the deadline. -/
  early : l.phase slot = .closed → slot < l.deadline → ∀ operation, operation.At slot →
    ¬ l.Accepts operation
  sold : l.phase slot = .closed → l.deadline ≤ slot → l.sold ≠ 0 →
    (∀ id sample, l.Accepts (.draw id sample slot) ↔ l.deadline < sample.slot) ∧
      ¬ l.Accepts (.void slot)
  unsold : l.phase slot = .closed → l.deadline ≤ slot → l.sold = 0 →
    l.Accepts (.void slot) ∧ ∀ id sample, ¬ l.Accepts (.draw id sample slot)
  drawn : l.phase slot = .drawn → ∀ id t balance, l.Accepts (.settle id t balance) ↔
    t.lottery = id ∧ t.start ≤ l.number ∧ l.number < t.stop
  drawn_only : l.phase slot = .drawn → ∀ operation, l.Accepts operation →
    operation.act = .settlement
  ended : l.phase slot = .settled ∨ l.phase slot = .voided → ∀ operation, ¬ l.Accepts operation

/-- On every record that was read from its stored form, the phase decides which operations can succeed. -/
theorem phase_decides_operations (read : decode bytes = .ok l) (slot : UInt64) :
    l.PhaseDecides slot := by
  have storable := (decode_eq_ok_iff.mp read).1
  constructor
  case selling_iff =>
    intro id buyer
    simp only [accepts_issue_iff storable]
    constructor
    · intro selling
      have left := UInt64.lt_iff_toNat_lt.mp ((phase_eq_selling_iff storable).mp selling).2.2
      exact ⟨1, selling, Nat.le_refl 1, Nat.le_sub_of_add_le' left⟩
    · rintro ⟨amount, selling, -⟩
      exact selling
  case selling =>
    intro selling id buyer amount
    rw [accepts_issue_iff storable, and_iff_right selling]
  case selling_only =>
    intro selling operation timed accepts
    have phases := accepts.phase_cases storable timed
    simpa [selling] using phases
  case closed_only =>
    intro closed operation timed accepts
    have phases := accepts.phase_cases storable timed
    simp only [closed, reduceCtorEq, false_and, true_and, false_or, or_false] at phases
    exact phases.2
  case early =>
    intro closed early operation timed accepts
    have phases := accepts.phase_cases storable timed
    simp only [closed, reduceCtorEq, false_and, true_and, false_or, or_false] at phases
    exact UInt64.not_le.mpr early phases.1
  case sold =>
    intro closed due sold
    refine ⟨fun id sample => ?_, fun voided => sold ((accepts_void_iff storable).mp voided).2.2⟩
    rw [accepts_draw_iff storable, and_iff_right closed, and_iff_right due, and_iff_right sold]
  case unsold =>
    intro closed due unsold
    exact ⟨(accepts_void_iff storable).mpr ⟨closed, due, unsold⟩,
      fun id sample drawn => ((accepts_draw_iff storable).mp drawn).2.2.1 unsold⟩
  case drawn =>
    intro drawn id t balance
    rw [accepts_settle_iff, and_iff_right drawn]
  case drawn_only =>
    intro drawn operation accepts
    have final : l.phase slot ∈ [.drawn, .settled, .voided] := by simp [drawn]
    exact (accepts.settlement storable final).2
  case ended =>
    intro ended operation accepts
    have final : l.phase slot ∈ [.drawn, .settled, .voided] := by simpa using .inr ended
    have drawn := (accepts.settlement storable final).1
    rw [drawn] at ended
    simp at ended

/-- A lottery of the greatest capacity with one number left: one number can be bought and two, the sum for
which would overflow, cannot; after the deadline the lottery can be drawn and not voided. -/
theorem phase_decides_operations_of_widest :
    let l : Lottery :=
      { Sample.launched with capacity := 0xffffffffffffffff, sold := 0xfffffffffffffffe }
    l.Accepts (.issue Sample.lottery Sample.buyer 1 49) ∧
      ¬ l.Accepts (.issue Sample.lottery Sample.buyer 2 49) ∧
        l.Accepts (.draw Sample.lottery ⟨51, .ofNat 102⟩ 60) ∧ ¬ l.Accepts (.void 60) := by
  intro l
  have read : decode l.encode = .ok l := decode_eq_ok_iff.mpr ⟨by decide, rfl⟩
  have selling := (phase_decides_operations read 49).selling (by decide)
  have sold := (phase_decides_operations read 60).sold (by decide) (by decide) (by decide)
  exact ⟨(selling _ _ 1).mpr (by decide), fun two => absurd ((selling _ _ 2).mp two) (by decide),
    (sold.1 _ _).mpr (by decide), sold.2⟩

end Lottery

end RangeLottery
