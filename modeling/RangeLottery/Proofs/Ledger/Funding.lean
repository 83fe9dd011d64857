import RangeLottery.Proofs.Ledger.Change

/-!
When the ledger's programs carry out what they are asked for. A missing account is allocated if the payer
has the lamports, and tokens are transferred if the source holds them and the destination has room. These
are the converses of what `Change` says of an operation that succeeded.
-/

namespace RangeLottery

namespace Book

variable {b c : Book} {key payer : Key}

/-- Nobody has created the account. -/
structure Missing (b : Book) (key : Key) : Prop where
  owner : (b.account key).owner = Known.systemProgram
  lamports : (b.account key).lamports = 0
  data : (b.account key).data = []

/-- The account is a wallet that has `due` lamports. -/
structure Affords (b : Book) (payer : Key) (due : Nat) : Prop where
  owner : (b.account payer).owner = Known.systemProgram
  data : (b.account payer).data = []
  lamports : due ≤ (b.account payer).lamports.toNat

/-- The account is a token account that `wallet` keeps for `mint`, and it is exempt from rent. -/
structure Keeps (b : Book) (key wallet mint : Key) : Prop where
  held : ∃ amount, (b.account key).tokens? = some ⟨mint, wallet, amount⟩
  rentExempt : (b.account key).isRentExempt = true

/-- The token account that `wallet` keeps for `mint` at `key` is there or can be opened there. -/
def Available (b : Book) (key wallet mint : Key) : Prop :=
  b.Missing key ∨ b.Keeps key wallet mint

/-- The lamports that opening a token account at `key` takes, if there is none yet. -/
def rentDue (b : Book) (key : Key) : Nat :=
  if (b.account key).owner = Known.systemProgram then (Account.rent TokenAccount.width).toNat else 0

theorem Affords.mono {due due' : Nat} (affords : b.Affords payer due) (less : due' ≤ due) :
    b.Affords payer due' :=
  { affords with lamports := Nat.le_trans less affords.lamports }

/-- A wallet with lamports is not a missing account. -/
theorem Affords.ne_of_missing {due : Nat} (affords : b.Affords payer due) (positive : 0 < due)
    (missing : b.Missing key) : key ≠ payer := by
  rintro rfl
  have some := affords.lamports
  rw [missing.lamports] at some
  exact absurd some (Nat.not_le.mpr positive)

/-- A wallet is no token account. -/
theorem Affords.ne_of_keeps {due : Nat} {wallet mint : Key} (affords : b.Affords payer due)
    (keeps : b.Keeps key wallet mint) : key ≠ payer := by
  rintro rfl
  obtain ⟨_, held⟩ := keeps.held
  rw [Account.tokens?_eq_none_of_vacant affords.data] at held
  cases held

theorem Affords.ne_of_available {due : Nat} {wallet mint : Key} (affords : b.Affords payer due)
    (positive : 0 < due) (available : b.Available key wallet mint) : key ≠ payer :=
  available.elim (affords.ne_of_missing positive) affords.ne_of_keeps

theorem Available.congr {wallet mint : Key} (available : b.Available key wallet mint)
    (same : c.account key = b.account key) : c.Available key wallet mint := by
  rcases available with ⟨owner, lamports, data⟩ | ⟨held, rentExempt⟩
  · exact .inl ⟨same ▸ owner, same ▸ lamports, same ▸ data⟩
  · exact .inr ⟨same ▸ held, same ▸ rentExempt⟩

/-! ### New accounts -/

/-- The payer pays for a missing account, which gets all of the payment. -/
theorem exists_allocate {lamports : UInt64} (data : Bytes) (owner : Key) (missing : b.Missing key)
    (affords : b.Affords payer lamports.toNat) (apart : key ≠ payer) :
    ∃ c, b.allocate payer key lamports data owner = .ok c ∧
      (c.account payer).lamports.toNat + lamports.toNat = (b.account payer).lamports.toNat ∧
        (c.account key).lamports = lamports := by
  have enough := affords.lamports
  have paid : Amount.sub? (b.account payer).lamports lamports =
      some ((b.account payer).lamports - lamports) :=
    if_pos (UInt64.le_iff_toNat_le.mpr enough)
  have left := Amount.sub?_eq_some_iff.mp paid
  have received : Amount.add? ((b.modify payer fun a =>
      { a with lamports := (b.account payer).lamports - lamports }).account key).lamports lamports =
      some lamports := by
    rw [account_modify_of_ne apart, missing.lamports]
    exact Amount.add?_eq_some_iff.mpr (Nat.zero_add _)
  refine ⟨_, allocate_eq_ok_iff.mpr ⟨missing.data, _, paid, _, received, rfl⟩, ?_, ?_⟩
  · rw [account_modify_of_ne apart.symm, account_modify_self]
    exact left
  · rw [account_modify_self]

/-! ### Tokens -/

section Transfer

variable {source destination : Key} {amount : UInt64} {paying receiving : TokenAccount}

/-- Tokens that the source holds can be taken from it. -/
theorem exists_takeTokens (held : (b.account source).tokens? = some paying)
    (enough : amount ≤ paying.amount) :
    ∃ left taken, b.takeTokens source amount = .ok taken ∧
      left.toNat + amount.toNat = paying.amount.toNat ∧
        taken = b.modify source fun a => { a with data := TokenAccount.setAmount a.data left } := by
  have paid : Amount.sub? paying.amount amount = some (paying.amount - amount) := if_pos enough
  exact ⟨_, _, (takeTokens_eq_ok_iff held).mpr ⟨_, paid, rfl⟩, Amount.sub?_eq_some_iff.mp paid, rfl⟩

/-- A transfer that the source can pay succeeds if the destination has room, or is the source. -/
theorem exists_transfer (held : (b.account source).tokens? = some paying)
    (held' : (b.account destination).tokens? = some receiving) (enough : amount ≤ paying.amount)
    (room : source = destination ∨ receiving.amount.toNat + amount.toNat < UInt64.size) :
    ∃ c, b.transfer source destination amount = .ok c := by
  obtain ⟨left, taken, took, rest, taken_eq⟩ := exists_takeTokens held enough
  obtain ⟨there, found, fits⟩ : ∃ there, (taken.account destination).tokens? = some there ∧
      there.amount.toNat + amount.toNat < UInt64.size := by
    by_cases same : destination = source
    · refine ⟨{ paying with amount := left }, ?_, ?_⟩
      · rw [taken_eq, same, account_modify_self]
        exact tokens?_setAmount held left
      · have bound := paying.amount.toNat_lt_size
        dsimp only
        omega
    · refine ⟨receiving, ?_, room.resolve_left (Ne.symm same)⟩
      rw [taken_eq, account_modify_of_ne same]
      exact held'
  have total : Amount.add? there.amount amount = some (there.amount + amount) := by
    apply Amount.add?_eq_some_iff.mpr
    rw [UInt64.toNat_add, Nat.mod_eq_of_lt fits]
  exact ⟨_, transfer_eq_ok_iff.mpr ⟨taken, took, (addTokens_eq_ok_iff found).mpr ⟨_, total, rfl⟩⟩⟩

/-- A transfer to another account without room overflows. -/
theorem transfer_eq_amountOverflow (held : (b.account source).tokens? = some paying)
    (held' : (b.account destination).tokens? = some receiving) (enough : amount ≤ paying.amount)
    (apart : source ≠ destination)
    (full : UInt64.size ≤ receiving.amount.toNat + amount.toNat) :
    b.transfer source destination amount = .error .amountOverflow := by
  obtain ⟨left, taken, took, -, taken_eq⟩ := exists_takeTokens held enough
  have found : (taken.account destination).tokens? = some receiving := by
    rw [taken_eq, account_modify_of_ne apart.symm]
    exact held'
  have decoded := (Account.tokens?_eq_some_iff.mp found).2
  simp only [transfer, took, addTokens, decoded, Amount.add?_eq_none_iff.mpr full]

end Transfer

end Book

end RangeLottery
