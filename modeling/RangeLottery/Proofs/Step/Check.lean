import RangeLottery.Proofs.Ledger.Change
import RangeLottery.Step.Check

/-!
What the checks of a step establish, and what its parts do when they succeed. Each check is
characterized by the fact that it accepts, and each part that calls another program or writes a record
by the change of the book that it makes.
-/

namespace RangeLottery

theorem Except.bind_eq_ok_iff {ε α β : Type} {x : Except ε α} {f : α → Except ε β} {b : β} :
    (x >>= f) = .ok b ↔ ∃ a, x = .ok a ∧ f a = .ok b := by
  cases x <;> simp [bind, Except.bind]

theorem Except.mapError_eq_ok_iff {ε ε' α : Type} {x : Except ε α} {f : ε → ε'} {a : α} :
    x.mapError f = .ok a ↔ x = .ok a := by
  cases x with
  | error => exact ⟨nofun, nofun⟩
  | ok =>
    constructor <;> intro same
    · rw [Except.ok.inj same]
    · exact congrArg Except.ok (Except.ok.inj same)

namespace Check

variable {b : Book} {entries : List Entry} {place : Nat} {role : Role} {e : Entry}
  {u : Unit}

/-! ### Reading the list -/

@[simp] theorem entry_eq_ok_iff : entry entries place role = .ok e ↔ entries[place]? = some e := by
  unfold entry
  cases entries[place]? <;> simp

@[simp] theorem pending_eq_ok_iff : pending entries place = .ok e ↔ entries[place]? = some e := by
  unfold pending
  cases entries[place]? <;> simp

@[simp] theorem signer_eq_ok_iff :
    signer entries place role = .ok e ↔ entries[place]? = some e ∧ e.signer = true := by
  unfold signer
  rw [Except.bind_eq_ok_iff]
  constructor
  · rintro ⟨found, listed, signed⟩
    split at signed
    · rename_i isSigner
      cases signed
      exact ⟨entry_eq_ok_iff.mp listed, isSigner⟩
    · cases signed
  · rintro ⟨listed, signed⟩
    exact ⟨e, entry_eq_ok_iff.mpr listed, by simp [signed, pure, Except.pure]⟩

@[simp] theorem program_eq_ok_iff {expected : Key} :
    program b entries place role expected = .ok u ↔
      ∃ e, entries[place]? = some e ∧ e.key = expected ∧ (b.account e.key).executable = true := by
  unfold program
  rw [Except.bind_eq_ok_iff]
  constructor
  · rintro ⟨found, listed, accepted⟩
    refine ⟨found, entry_eq_ok_iff.mp listed, ?_⟩
    split at accepted
    · cases accepted
    · rename_i named
      split at accepted
      · rename_i runs
        exact ⟨Classical.not_not.mp named, runs⟩
      · cases accepted
  · rintro ⟨found, listed, rfl, runs⟩
    exact ⟨found, entry_eq_ok_iff.mpr listed, by simp [runs, pure, Except.pure]⟩

theorem decoded_eq_ok_iff {α : Type} {decode : Bytes → Except LedgerError α} {key : Key} {x : α} :
    decoded decode b role key = .ok x ↔
      (b.account key).owner = Known.tokenProgram ∧ decode (b.account key).data = .ok x := by
  simp only [decoded]
  split
  · rename_i missing
    simp [missing.1, Known.tokenProgram_ne_systemProgram.symm]
  · split
    · rename_i foreign
      simp [foreign]
    · rename_i owned
      rw [Except.mapError_eq_ok_iff, Classical.not_not.mp owned]
      simp

@[simp] theorem tokenAccount_eq_ok_iff {key : Key} {tokens : TokenAccount} :
    tokenAccount b role key = .ok tokens ↔ (b.account key).tokens? = some tokens :=
  decoded_eq_ok_iff.trans Account.tokens?_eq_some_iff.symm

@[simp] theorem mint_eq_ok_iff {key : Key} {m : Mint} :
    mint b role key = .ok m ↔
      (b.account key).owner = Known.tokenProgram ∧ Mint.decode (b.account key).data = .ok m :=
  decoded_eq_ok_iff

/-! ### Conditions -/

@[simp] theorem require_eq_ok_iff {holds : Bool} {fault : Fault} :
    require holds fault = .ok u ↔ holds = true := by
  unfold require
  split <;> simp_all

@[simp] theorem same_eq_ok_iff {cause : Cause} {actual expected : Key} :
    same role cause actual expected = .ok u ↔ actual = expected := by
  simp [same]

@[simp] theorem writable_eq_ok_iff : writable role e = .ok u ↔ e.writable = true := by
  simp [writable]

@[simp] theorem vacant_eq_ok_iff : vacant b role e = .ok u ↔ (b.account e.key).data = [] := by
  simp [vacant]

@[simp] theorem recorded_eq_ok_iff :
    recorded b role e = .ok u ↔ (b.account e.key).owner = Known.lotteryProgram := by
  simp [recorded]

@[simp] theorem agrees_eq_ok_iff {actual expected : Key} :
    agrees actual expected = .ok u ↔ actual = expected := by
  simp [agrees]

/-- The account is the token account that `wallet` keeps for `mint`. -/
structure Associated (b : Book) (e : Entry) (wallet mint : Key) : Prop where
  address : e.key = Address.associated wallet mint
  tokens : ∃ amount, (b.account e.key).tokens? = some ⟨mint, wallet, amount⟩
  writable : e.writable = true
  rentExempt : (b.account e.key).isRentExempt = true

theorem associated_eq_ok_iff {wallet mint : Key} :
    associated b role e wallet mint = .ok u ↔ Associated b e wallet mint := by
  simp only [associated, Except.bind_eq_ok_iff, tokenAccount_eq_ok_iff, same_eq_ok_iff,
    require_eq_ok_iff, writable_eq_ok_iff, decide_eq_true_eq, exists_const]
  constructor
  · rintro ⟨⟨_, _, amount⟩, held, rfl, rfl, address, writable, rentExempt⟩
    exact ⟨address, ⟨amount, held⟩, writable, rentExempt⟩
  · rintro ⟨address, ⟨amount, held⟩, writable, rentExempt⟩
    exact ⟨⟨mint, wallet, amount⟩, held, rfl, rfl, address, writable, rentExempt⟩

end Check

end RangeLottery
