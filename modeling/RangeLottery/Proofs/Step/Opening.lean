import RangeLottery.Proofs.Step.Record
import RangeLottery.Step.Opening

/-!
What a granted opening does: the empty lottery account becomes the record of a lottery that has sold
nothing, and the vault and the fee account are token accounts of the mint, the vault of the custody
address of the lottery and the fee account of the fee collector. No tokens move.
-/

namespace RangeLottery

namespace Opening

open Session

variable {slot capacity deadline : UInt64} {entries : List Entry} {a : Accounts} {b c : Book}
  {p q : Progress} {u : Unit}

/-- The accounts of an opening, as they are listed and found. -/
structure Loaded (b : Book) (entries : List Entry) (a : Accounts) : Prop where
  lottery : entries[0]? = some a.lottery
  lottery_signs : a.lottery.signer = true
  authority : entries[1]? = some a.authority
  authority_signs : a.authority.signer = true
  feeCollector : entries[2]? = some a.feeCollector
  custody : entries[3]? = some a.custody
  vault : entries[4]? = some a.vault
  feeAccount : entries[5]? = some a.feeAccount
  mint : entries[6]? = some a.mint
  mint_owned : (b.account a.mint.key).owner = Known.tokenProgram
  mint_decoded : ∃ m, Mint.decode (b.account a.mint.key).data = .ok m
  tokenProgram : ∃ e, entries[7]? = some e ∧ e.key = Known.tokenProgram ∧
    (b.account e.key).executable = true
  associatedTokenProgram : ∃ e, entries[8]? = some e ∧ e.key = Known.associatedTokenProgram ∧
    (b.account e.key).executable = true
  systemProgram : ∃ e, entries[9]? = some e ∧ e.key = Known.systemProgram ∧
    (b.account e.key).executable = true

theorem load_eq_ok_iff : load b entries = .ok a ↔ Loaded b entries a := by
  obtain ⟨lottery, authority, feeCollector, custody, vault, feeAccount, mint⟩ := a
  simp only [load, Except.bind_eq_ok_iff, Check.entry_eq_ok_iff, Check.signer_eq_ok_iff,
    Check.pending_eq_ok_iff, Check.mint_eq_ok_iff, Check.program_eq_ok_iff, pure, Except.pure,
    Except.ok.injEq, Accounts.mk.injEq]
  constructor
  · rintro ⟨_, ⟨h0, signs0⟩, _, ⟨h1, signs1⟩, _, h2, _, h3, _, h4, _, h5, _, h6, m,
      ⟨owned6, decoded6⟩, _, h7, _, h8, _, h9, rfl, rfl, rfl, rfl, rfl, rfl, rfl⟩
    exact ⟨h0, signs0, h1, signs1, h2, h3, h4, h5, h6, owned6, ⟨m, decoded6⟩, h7, h8, h9⟩
  · rintro ⟨h0, signs0, h1, signs1, h2, h3, h4, h5, h6, owned6, ⟨m, decoded6⟩, h7, h8, h9⟩
    exact ⟨lottery, ⟨h0, signs0⟩, authority, ⟨h1, signs1⟩, feeCollector, h2, custody, h3, vault, h4,
      feeAccount, h5, mint, h6, m, ⟨owned6, decoded6⟩, (), h7, (), h8, (), h9, rfl, rfl, rfl, rfl,
      rfl, rfl, rfl⟩

/-- What is checked of the accounts of an opening, once the token accounts are there. -/
structure Checked (b : Book) (a : Accounts) : Prop where
  lottery_writable : a.lottery.writable = true
  lottery_vacant : (b.account a.lottery.key).data = []
  authority_writable : a.authority.writable = true
  feeCollector : a.feeCollector.key = Known.feeCollector
  custody : a.custody.key = (Address.custody a.lottery.key).address

theorem check_eq_ok_iff : check b a = .ok u ↔ Checked b a := by
  simp only [check, Except.bind_eq_ok_iff, Check.writable_eq_ok_iff, Check.vacant_eq_ok_iff,
    Check.same_eq_ok_iff]
  constructor
  · rintro ⟨_, h0, _, h1, _, h2, _, h3, h4⟩
    exact ⟨h0, h1, h2, h3, h4⟩
  · rintro ⟨h0, h1, h2, h3, h4⟩
    exact ⟨(), h0, (), h1, (), h2, (), h3, h4⟩

/-- A granted opening of `l`. -/
structure Effect (slot capacity deadline : UInt64) (entries : List Entry) (a : Accounts)
    (l : Lottery) (b c : Book) : Prop where
  loaded : Loaded b entries a
  checked : Checked b a
  granted : Lottery.launch a.authority.key a.vault.key a.feeAccount.key a.mint.key capacity deadline
    slot = .ok l
  vault_address : a.vault.key = Address.associated a.custody.key a.mint.key
  vault_writable : a.vault.writable = true
  vault_foreign : (b.account a.vault.key).owner ≠ Known.lotteryProgram
  vault_held : ∃ amount,
    (c.account a.vault.key).tokens? = some ⟨a.mint.key, a.custody.key, amount⟩
  feeAccount_address : a.feeAccount.key = Address.associated a.feeCollector.key a.mint.key
  feeAccount_writable : a.feeAccount.writable = true
  feeAccount_foreign : (b.account a.feeAccount.key).owner ≠ Known.lotteryProgram
  feeAccount_held : ∃ amount,
    (c.account a.feeAccount.key).tokens? = some ⟨a.mint.key, a.feeCollector.key, amount⟩
  lotteries : ∀ key, (c.account key).lottery? =
    if key = a.lottery.key then some l else (b.account key).lottery?
  tickets : ∀ key, (c.account key).ticket? = (b.account key).ticket?
  balance : ∀ key, (c.account key).balance = (b.account key).balance
  evolves : b.Evolves c
  confined : b.Confined c [a.lottery.key, a.vault.key, a.feeAccount.key]
    [a.authority.key, a.lottery.key, a.vault.key, a.feeAccount.key]

/-- The books between the parts of a granted opening. -/
structure Stages (a : Accounts) (l : Lottery) (b opened ready created c : Book) : Prop where
  vault : b.Ensured opened a.vault a.authority.key a.custody.key a.mint.key
  feeAccount : opened.Ensured ready a.feeAccount a.authority.key a.feeCollector.key a.mint.key
  allocated : ready.Allocated created a.lottery.key (List.replicate Lottery.width 0)
    Known.lotteryProgram
  created_evolves : ready.Evolves created
  created_confined : ready.Confined created [a.lottery.key] [a.authority.key, a.lottery.key]
  written : c = created.modify a.lottery.key fun x => { x with data := l.encode }

theorem run_stages (done : runOn (run slot entries capacity deadline) p = (.ok u, q)) :
    ∃ a l opened ready created, Loaded p.book entries a ∧ Checked ready a ∧
      Lottery.launch a.authority.key a.vault.key a.feeAccount.key a.mint.key capacity deadline
        slot = .ok l ∧
      Stages a l p.book opened ready created q.book ∧
      q.events = p.events ++
        [.launched a.lottery.key a.authority.key capacity deadline a.mint.key] := by
  simp only [run, pass_bind_eq_ok_iff, book_bind_eq_ok_iff] at done
  obtain ⟨a, loaded, done⟩ := done
  obtain ⟨_, r, vaulting, done⟩ := runOn_bind_eq_ok_iff.mp done
  obtain ⟨_, s, feeing, done⟩ := runOn_bind_eq_ok_iff.mp done
  simp only [pass_bind_eq_ok_iff, book_bind_eq_ok_iff, accept_bind_eq_ok_iff,
    remark_bind_eq_ok_iff] at done
  obtain ⟨_, checked, l, granted, done⟩ := done
  obtain ⟨_, t, creating, done⟩ := runOn_bind_eq_ok_iff.mp done
  simp only [saveLottery_bind_eq_ok_iff, remark_bind_eq_ok_iff, runOn_announce,
    Prod.mk.injEq] at done
  obtain ⟨-, -, rfl⟩ := done
  obtain ⟨vault, quiet⟩ := ensureAssociated_spec vaulting
  obtain ⟨feeAccount, quiet'⟩ := ensureAssociated_spec feeing
  obtain ⟨allocated, quiet''⟩ := createRecord_spec creating
  refine ⟨a, l, r.book, s.book, t.book, load_eq_ok_iff.mp loaded, check_eq_ok_iff.mp checked,
    granted, {
      vault := vault
      feeAccount := feeAccount
      allocated := Book.allocated_of_allocate allocated
      created_evolves := Book.evolves_of_allocate allocated
      created_confined := Book.confined_of_allocate allocated
      written := rfl }, ?_⟩
  simp only [quiet'', quiet', quiet]

section Stages

variable {l : Lottery} {opened ready created : Book}

theorem Stages.evolves_ready (stages : Stages a l b opened ready created c) : b.Evolves ready :=
  stages.vault.evolves.trans stages.feeAccount.evolves

/-- The lottery account belongs to the lottery program when the record is written. -/
theorem Stages.evolves_written (stages : Stages a l b opened ready created c) :
    created.Evolves c := by
  rw [stages.written]
  apply Book.evolves_record stages.allocated.owner_after
  rw [stages.allocated.data_after, Lottery.length_encode, List.length_replicate]

theorem Stages.evolves (stages : Stages a l b opened ready created c) : b.Evolves c :=
  stages.evolves_ready.trans (stages.created_evolves.trans stages.evolves_written)

theorem Stages.confined (stages : Stages a l b opened ready created c) :
    b.Confined c [a.lottery.key, a.vault.key, a.feeAccount.key]
      [a.authority.key, a.lottery.key, a.vault.key, a.feeAccount.key] := by
  rw [stages.written]
  refine ((stages.vault.confined.trans stages.feeAccount.confined).trans
    (stages.created_confined.trans
      (Book.confined_write created a.lottery.key _))).mono ?_ ?_
  · intro key mem
    simp only [List.mem_append, List.mem_cons, List.not_mem_nil, or_false] at mem ⊢
    grind
  · intro key mem
    simp only [List.mem_append, List.mem_cons, List.not_mem_nil, or_false] at mem ⊢
    grind

theorem Stages.balance (stages : Stages a l b opened ready created c) (key : Key) :
    (c.account key).balance = (b.account key).balance := by
  rw [stages.written, Book.balance_write stages.allocated.owner_after,
    Book.balance_of_allocated stages.allocated stages.created_confined, stages.feeAccount.balance,
    stages.vault.balance]

theorem effect_of_stages (loaded : Loaded b entries a) (checked : Checked ready a)
    (granted : Lottery.launch a.authority.key a.vault.key a.feeAccount.key a.mint.key capacity
      deadline slot = .ok l)
    (stages : Stages a l b opened ready created c) :
    Effect slot capacity deadline entries a l b c := by
  have evolves := stages.evolves
  have confined := stages.confined
  have vacant : (b.account a.lottery.key).data = [] :=
    stages.evolves_ready.vacant checked.lottery_vacant
  have after : (c.account a.lottery.key).lottery? = some l := by
    rw [stages.written]
    exact Book.lottery?_write stages.allocated.owner_after (Lottery.storable_of_launch granted)
  obtain ⟨_, vaultOpened⟩ := stages.vault.associated.tokens
  obtain ⟨_, vaultReady⟩ := stages.feeAccount.evolves.tokens _ _ vaultOpened
  obtain ⟨_, feeReady⟩ := stages.feeAccount.associated.tokens
  have written := stages.created_evolves.trans stages.evolves_written
  obtain ⟨_, vaultAfter⟩ := written.tokens _ _ vaultReady
  obtain ⟨_, feeAfter⟩ := written.tokens _ _ feeReady
  have unrecorded : ∀ key ∈ [a.vault.key, a.feeAccount.key], b.Unrecorded c key := by
    intro key mem
    simp only [List.mem_cons, List.not_mem_nil, or_false] at mem
    rcases mem with rfl | rfl
    · exact evolves.unrecorded vaultAfter
    · exact evolves.unrecorded feeAfter
  exact {
    loaded, granted, evolves, confined
    checked := { checked with lottery_vacant := vacant }
    vault_address := stages.vault.associated.address
    vault_writable := stages.vault.associated.writable
    vault_foreign := stages.vault.foreign
    vault_held := ⟨_, vaultAfter⟩
    feeAccount_address := stages.feeAccount.associated.address
    feeAccount_writable := stages.feeAccount.associated.writable
    feeAccount_foreign := fun owned => stages.feeAccount.foreign (stages.vault.owned owned)
    feeAccount_held := ⟨_, feeAfter⟩
    lotteries := Book.lottery?_eq_of_unrecorded confined after unrecorded
    tickets := Book.ticket?_eq_of_unrecorded confined (Account.ticket?_eq_none_of_vacant vacant)
      after unrecorded
    balance := stages.balance }

end Stages

theorem run_spec (done : runOn (run slot entries capacity deadline) p = (.ok u, q)) :
    ∃ a l, Effect slot capacity deadline entries a l p.book q.book ∧
      q.events = p.events ++
        [.launched a.lottery.key a.authority.key capacity deadline a.mint.key] := by
  obtain ⟨a, l, opened, ready, created, loaded, checked, granted, stages, events⟩ := run_stages done
  exact ⟨a, l, effect_of_stages loaded checked granted stages, events⟩

end Opening

end RangeLottery
