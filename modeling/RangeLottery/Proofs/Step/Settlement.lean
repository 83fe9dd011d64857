import RangeLottery.Proofs.Step.Record
import RangeLottery.Step.Settlement

/-!
What a granted settlement does: the record is settled, the winner's token account is there, and the
winner's share and the fee leave the vault for that account and for the fee account. Any two of the
three token accounts may be one account, so the balances are related by sums.
-/

namespace RangeLottery

namespace Settlement

open Session

variable {entries : List Entry} {a : Accounts} {b c : Book} {p q : Progress} {u : Unit}

/-- The accounts of a settlement, as they are listed and found. -/
structure Loaded (b : Book) (entries : List Entry) (a : Accounts) : Prop where
  lottery : entries[0]? = some a.lottery
  authority : entries[1]? = some a.authority
  authority_signs : a.authority.signer = true
  custody : entries[2]? = some a.custody
  vault : entries[3]? = some a.vault
  vault_held : (b.account a.vault.key).tokens? = some a.vaultTokens
  feeAccount : entries[4]? = some a.feeAccount
  feeAccount_held : (b.account a.feeAccount.key).tokens? = some a.feeTokens
  prizeAccount : entries[5]? = some a.prizeAccount
  ticket : entries[6]? = some a.ticket
  winner : entries[7]? = some a.winner
  mint : entries[8]? = some a.mint
  mint_owned : (b.account a.mint.key).owner = Known.tokenProgram
  mint_decoded : Mint.decode (b.account a.mint.key).data = .ok ⟨a.decimals⟩
  tokenProgram : ∃ e, entries[9]? = some e ∧ e.key = Known.tokenProgram ∧
    (b.account e.key).executable = true
  associatedTokenProgram : ∃ e, entries[10]? = some e ∧ e.key = Known.associatedTokenProgram ∧
    (b.account e.key).executable = true
  systemProgram : ∃ e, entries[11]? = some e ∧ e.key = Known.systemProgram ∧
    (b.account e.key).executable = true

theorem load_eq_ok_iff : load b entries = .ok a ↔ Loaded b entries a := by
  obtain ⟨lottery, authority, custody, vault, vaultTokens, feeAccount, feeTokens, prizeAccount,
    ticket, winner, mint, decimals⟩ := a
  simp only [load, Except.bind_eq_ok_iff, Check.entry_eq_ok_iff, Check.signer_eq_ok_iff,
    Check.pending_eq_ok_iff, Check.tokenAccount_eq_ok_iff, Check.mint_eq_ok_iff,
    Check.program_eq_ok_iff, pure, Except.pure, Except.ok.injEq, Accounts.mk.injEq]
  constructor
  · rintro ⟨_, h0, _, ⟨h1, signs1⟩, _, h2, _, h3, _, held3, _, h4, _, held4, _, h5, _, h6, _, h7, _,
      h8, _, ⟨owned8, decoded8⟩, _, h9, _, h10, _, h11, rfl, rfl, rfl, rfl, rfl, rfl, rfl, rfl, rfl,
      rfl, rfl, rfl⟩
    exact ⟨h0, h1, signs1, h2, h3, held3, h4, held4, h5, h6, h7, h8, owned8, decoded8, h9, h10, h11⟩
  · rintro ⟨h0, h1, signs1, h2, h3, held3, h4, held4, h5, h6, h7, h8, owned8, decoded8, h9, h10,
      h11⟩
    exact ⟨lottery, h0, authority, ⟨h1, signs1⟩, custody, h2, vault, h3, vaultTokens, held3,
      feeAccount, h4, feeTokens, held4, prizeAccount, h5, ticket, h6, winner, h7, mint, h8,
      ⟨decimals⟩, ⟨owned8, decoded8⟩, (), h9, (), h10, (), h11, rfl, rfl, rfl, rfl, rfl, rfl, rfl,
      rfl, rfl, rfl, rfl, rfl⟩

/-- What is checked of the accounts of a settlement, once the winner's token account is there. -/
structure Checked (b : Book) (a : Accounts) : Prop where
  lottery_writable : a.lottery.writable = true
  lottery_owned : (b.account a.lottery.key).owner = Known.lotteryProgram
  authority_writable : a.authority.writable = true
  custody : a.custody.key = (Address.custody a.lottery.key).address
  vault_owner : a.vaultTokens.owner = a.custody.key
  vault_address : a.vault.key = Address.associated a.custody.key a.mint.key
  vault_writable : a.vault.writable = true
  feeAccount_writable : a.feeAccount.writable = true
  feeAccount_mint : a.feeTokens.mint = a.mint.key
  ticket_owned : (b.account a.ticket.key).owner = Known.lotteryProgram

theorem check_eq_ok_iff : check b a = .ok u ↔ Checked b a := by
  simp only [check, Except.bind_eq_ok_iff, Check.writable_eq_ok_iff, Check.recorded_eq_ok_iff,
    Check.same_eq_ok_iff, Check.require_eq_ok_iff, decide_eq_true_eq]
  constructor
  · rintro ⟨_, h0, _, h1, _, h2, _, h3, _, h4, _, h5, _, h6, _, h7, _, h8, h9⟩
    exact ⟨h0, h1, h2, h3, h4, h5, h6, h7, h8, h9⟩
  · rintro ⟨h0, h1, h2, h3, h4, h5, h6, h7, h8, h9⟩
    exact ⟨(), h0, (), h1, (), h2, (), h3, (), h4, (), h5, (), h6, (), h7, (), h8, h9⟩

/-- What a settlement finds in the records: the lottery `l` and the ticket `t` that it is granted
for. -/
structure Granted (b : Book) (a : Accounts) (l l' : Lottery) (t : Ticket) (payout : Payout) :
    Prop where
  before : (b.account a.lottery.key).lottery? = some l
  ticket : (b.account a.ticket.key).ticket? = some t
  authorized : a.authority.key = l.authority
  vault : a.vault.key = l.vault
  feeAccount : a.feeAccount.key = l.feeAccount
  mint : a.mint.key = l.mint
  winner : a.winner.key = t.buyer
  settled : l.settle a.lottery.key t a.vaultTokens.amount = (.ok payout, l')

/-- `winner` and `fee` tokens left `vault`, the one for `prize` and the other for `collector`. -/
def PaidOut (b c : Book) (vault prize collector : Key) (winner fee : Nat) : Prop :=
  ∀ key, (c.account key).balance + (if key = vault then winner + fee else 0) =
    (b.account key).balance + (if key = prize then winner else 0) +
      (if key = collector then fee else 0)

/-- A granted settlement of `l` for the ticket `t`. -/
structure Effect (entries : List Entry) (a : Accounts) (l l' : Lottery) (t : Ticket)
    (payout : Payout) (b c : Book) : Prop where
  loaded : Loaded b entries a
  checked : Checked b a
  granted : Granted b a l l' t payout
  prize_address : a.prizeAccount.key = Address.associated a.winner.key a.mint.key
  prize_writable : a.prizeAccount.writable = true
  prize_foreign : (b.account a.prizeAccount.key).owner ≠ Known.lotteryProgram
  prize_held : ∃ amount,
    (c.account a.prizeAccount.key).tokens? = some ⟨a.mint.key, a.winner.key, amount⟩
  prize_before : (b.account a.prizeAccount.key).data = [] ∨ ∃ amount,
    (b.account a.prizeAccount.key).tokens? = some ⟨a.mint.key, a.winner.key, amount⟩
  lotteries : ∀ key, (c.account key).lottery? =
    if key = a.lottery.key then some l' else (b.account key).lottery?
  tickets : ∀ key, (c.account key).ticket? = (b.account key).ticket?
  balance : PaidOut b c a.vault.key a.prizeAccount.key a.feeAccount.key payout.winner.toNat
    payout.fee.toNat
  evolves : b.Evolves c
  confined : b.Confined c [a.lottery.key, a.vault.key, a.prizeAccount.key, a.feeAccount.key]
    [a.authority.key, a.prizeAccount.key]

/-- The books between the parts of a granted settlement. -/
structure Stages (a : Accounts) (l' : Lottery) (payout : Payout) (b opened rewarded paid c : Book) :
    Prop where
  prize : b.Ensured opened a.prizeAccount a.authority.key a.winner.key a.mint.key
  rewarding : opened.Transferred rewarded a.vault.key a.prizeAccount.key payout.winner.toNat
  rewarded_evolves : opened.Evolves rewarded
  rewarded_confined : opened.Confined rewarded [a.vault.key, a.prizeAccount.key] []
  paying : rewarded.Transferred paid a.vault.key a.feeAccount.key payout.fee.toNat
  paid_evolves : rewarded.Evolves paid
  paid_confined : rewarded.Confined paid [a.vault.key, a.feeAccount.key] []
  written : c = paid.modify a.lottery.key fun x => { x with data := l'.encode }

theorem run_stages (done : runOn (run entries) p = (.ok u, q)) :
    ∃ a l l' t payout opened rewarded paid, Loaded p.book entries a ∧ Checked opened a ∧
      Granted opened a l l' t payout ∧ Stages a l' payout p.book opened rewarded paid q.book ∧
      ∃ total, payout.total = .ok total ∧
        q.events = p.events ++ [.settled a.lottery.key a.ticket.key a.winner.key total payout.winner
          payout.fee] := by
  simp only [run, pass_bind_eq_ok_iff, book_bind_eq_ok_iff] at done
  obtain ⟨a, loaded, done⟩ := done
  obtain ⟨_, r, ensuring, done⟩ := runOn_bind_eq_ok_iff.mp done
  simp only [pass_bind_eq_ok_iff, book_bind_eq_ok_iff, readLottery_bind_eq_ok_iff,
    readTicket_bind_eq_ok_iff, accept_bind_eq_ok_iff, remark_bind_eq_ok_iff] at done
  obtain ⟨_, checked, l, decoded, _, authorized, _, vault, _, feeAccount, _, mint, t, decoded', _,
    winner, payout, divided, done⟩ := done
  obtain ⟨_, s, rewarding, done⟩ := runOn_bind_eq_ok_iff.mp done
  simp only [remark_bind_eq_ok_iff] at done
  obtain ⟨_, v, paying, done⟩ := runOn_bind_eq_ok_iff.mp done
  simp only [saveLottery_bind_eq_ok_iff, accept_bind_eq_ok_iff, runOn_announce,
    Prod.mk.injEq] at done
  obtain ⟨-, total, summed, -, rfl⟩ := done
  have loaded := load_eq_ok_iff.mp loaded
  have checked := check_eq_ok_iff.mp checked
  obtain ⟨prize, quiet⟩ := ensureAssociated_spec ensuring
  obtain ⟨_, vaultOpened⟩ := prize.evolves.tokens _ _ loaded.vault_held
  obtain ⟨_, feeOpened⟩ := prize.evolves.tokens _ _ loaded.feeAccount_held
  obtain ⟨_, prizeOpened⟩ := prize.associated.tokens
  obtain ⟨rewarded, rewarded_evolves, rewarded_confined, quiet'⟩ :=
    transfer_spec rewarding vaultOpened prizeOpened
  obtain ⟨_, vaultRewarded⟩ := rewarded_evolves.tokens _ _ vaultOpened
  obtain ⟨_, feeRewarded⟩ := rewarded_evolves.tokens _ _ feeOpened
  obtain ⟨paid, paid_evolves, paid_confined, quiet''⟩ :=
    transfer_spec paying vaultRewarded feeRewarded
  refine ⟨a, l, _, t, payout, r.book, s.book, v.book, loaded, checked, {
      before := ?_
      ticket := ?_
      authorized := Lottery.authorize_eq_ok_iff.mp authorized
      vault := Check.agrees_eq_ok_iff.mp vault
      feeAccount := Check.agrees_eq_ok_iff.mp feeAccount
      mint := Check.agrees_eq_ok_iff.mp mint
      winner := Check.agrees_eq_ok_iff.mp winner
      settled := Prod.ext divided rfl }, {
      prize := prize
      rewarding := rewarded
      rewarded_evolves := rewarded_evolves
      rewarded_confined := rewarded_confined
      paying := paid
      paid_evolves := paid_evolves
      paid_confined := paid_confined
      written := rfl }, total, summed, ?_⟩
  · simpa [Account.lottery?, checked.lottery_owned] using decoded
  · simpa [Account.ticket?, checked.ticket_owned] using decoded'
  · simp only [quiet'', quiet', quiet]

section Stages

variable {l l' : Lottery} {t : Ticket} {payout : Payout} {opened rewarded paid : Book}

theorem Stages.evolves_paid (stages : Stages a l' payout b opened rewarded paid c) :
    opened.Evolves paid :=
  stages.rewarded_evolves.trans stages.paid_evolves

theorem Stages.evolves (stages : Stages a l' payout b opened rewarded paid c)
    (before : (opened.account a.lottery.key).lottery? = some l) : b.Evolves c := by
  obtain ⟨owned, length⟩ := stages.evolves_paid.lottery_owned before
  rw [stages.written]
  refine stages.prize.evolves.trans (stages.evolves_paid.trans (Book.evolves_record owned ?_))
  rw [length, Lottery.length_encode]

theorem Stages.confined (stages : Stages a l' payout b opened rewarded paid c) :
    b.Confined c [a.lottery.key, a.vault.key, a.prizeAccount.key, a.feeAccount.key]
      [a.authority.key, a.prizeAccount.key] := by
  rw [stages.written]
  refine ((stages.prize.confined.trans stages.rewarded_confined).trans
    (stages.paid_confined.trans
      (Book.confined_write paid a.lottery.key _))).mono ?_ ?_
  · intro key mem
    simp only [List.mem_append, List.mem_cons, List.not_mem_nil, or_false] at mem ⊢
    grind
  · intro key mem
    simpa using mem

theorem Stages.balance (stages : Stages a l' payout b opened rewarded paid c)
    (before : (opened.account a.lottery.key).lottery? = some l) :
    PaidOut b c a.vault.key a.prizeAccount.key a.feeAccount.key payout.winner.toNat
      payout.fee.toNat := by
  intro key
  have first := stages.rewarding key
  have second := stages.paying key
  rw [stages.prize.balance key] at first
  rw [stages.written, Book.balance_write (stages.evolves_paid.lottery_owned before).1]
  -- What the vault pays is what arrives, whichever of the accounts are one.
  by_cases isVault : key = a.vault.key
  · simp only [isVault, if_true] at first second ⊢
    omega
  · simp only [isVault, if_false] at first second ⊢
    omega

/-- A record other than the prize account was there before the prize account was ensured. -/
theorem Stages.before (stages : Stages a l' payout b opened rewarded paid c) {key : Key}
    (unheld : (opened.account key).tokens? = none) :
    (b.account key).SameHolding (opened.account key) := by
  apply stages.prize.confined.holding key
  intro mem
  obtain ⟨_, held⟩ := stages.prize.associated.tokens
  rw [List.mem_singleton.mp mem, held] at unheld
  cases unheld

theorem Stages.checked (stages : Stages a l' payout b opened rewarded paid c)
    (checked : Checked opened a) : Checked b a := by
  have lottery := stages.before (Account.tokens?_eq_none_of_owner checked.lottery_owned)
  have ticket := stages.before (Account.tokens?_eq_none_of_owner checked.ticket_owned)
  exact { checked with
    lottery_owned := lottery.owner.symm.trans checked.lottery_owned
    ticket_owned := ticket.owner.symm.trans checked.ticket_owned }

theorem Stages.granted (stages : Stages a l' payout b opened rewarded paid c)
    (granted : Granted opened a l l' t payout) : Granted b a l l' t payout := by
  have lottery := stages.before (Account.tokens?_eq_none_of_lottery? granted.before)
  have ticket := stages.before (Account.tokens?_eq_none_of_ticket? granted.ticket)
  exact { granted with
    before := lottery.lottery?_eq.symm.trans granted.before
    ticket := ticket.ticket?_eq.symm.trans granted.ticket }

/-- The prize account was empty or was the winner's token account before. -/
theorem Stages.prize_before (stages : Stages a l' payout b opened rewarded paid c) :
    (b.account a.prizeAccount.key).data = [] ∨ ∃ amount,
      (b.account a.prizeAccount.key).tokens? = some ⟨a.mint.key, a.winner.key, amount⟩ := by
  rcases stages.prize.opened with unopened | ⟨-, vacant⟩
  · right
    rw [← unopened]
    exact stages.prize.associated.tokens
  · left
    exact vacant

theorem effect_of_stages (loaded : Loaded b entries a) (checked : Checked opened a)
    (granted : Granted opened a l l' t payout)
    (stages : Stages a l' payout b opened rewarded paid c) :
    Effect entries a l l' t payout b c := by
  have evolves := stages.evolves granted.before
  have confined := stages.confined
  have storable := (Account.lottery?_eq_some_iff.mp granted.before).2.1
  have after : (c.account a.lottery.key).lottery? = some l' := by
    rw [stages.written]
    exact Book.lottery?_write (stages.evolves_paid.lottery_owned granted.before).1
      (Lottery.storable_of_settle storable granted.settled)
  obtain ⟨owned, length⟩ := stages.evolves_paid.lottery_owned granted.before
  have written : paid.Evolves c := by
    rw [stages.written]
    exact Book.evolves_record owned (length.trans (Lottery.length_encode l').symm)
  obtain ⟨_, prizeOpened⟩ := stages.prize.associated.tokens
  obtain ⟨_, prizeAfter⟩ := (stages.evolves_paid.trans written).tokens _ _ prizeOpened
  have unrecorded : ∀ key ∈ [a.vault.key, a.prizeAccount.key, a.feeAccount.key],
      b.Unrecorded c key := by
    intro key mem
    simp only [List.mem_cons, List.not_mem_nil, or_false] at mem
    rcases mem with rfl | rfl | rfl
    · exact evolves.unrecorded_of_tokens? loaded.vault_held
    · exact evolves.unrecorded prizeAfter
    · exact evolves.unrecorded_of_tokens? loaded.feeAccount_held
  have before := Account.ticket?_eq_none_of_lottery? (stages.granted granted).before
  exact {
    loaded, evolves, confined
    checked := stages.checked checked
    granted := stages.granted granted
    prize_address := stages.prize.associated.address
    prize_writable := stages.prize.associated.writable
    prize_foreign := stages.prize.foreign
    prize_held := ⟨_, prizeAfter⟩
    prize_before := stages.prize_before
    lotteries := Book.lottery?_eq_of_unrecorded confined after unrecorded
    tickets := Book.ticket?_eq_of_unrecorded confined before after unrecorded
    balance := stages.balance granted.before }

end Stages

theorem run_spec (done : runOn (run entries) p = (.ok u, q)) :
    ∃ a l l' t payout, Effect entries a l l' t payout p.book q.book ∧
      ∃ total, payout.total = .ok total ∧
        q.events = p.events ++ [.settled a.lottery.key a.ticket.key a.winner.key total payout.winner
          payout.fee] := by
  obtain ⟨a, l, l', t, payout, opened, rewarded, paid, loaded, checked, granted, stages, announced⟩ :=
    run_stages done
  exact ⟨a, l, l', t, payout, effect_of_stages loaded checked granted stages, announced⟩

end Settlement

end RangeLottery
