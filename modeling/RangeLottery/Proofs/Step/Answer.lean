import RangeLottery.Proofs.Record.Payout
import RangeLottery.Proofs.Step.Continuation
import RangeLottery.Proofs.Step.Drawing
import RangeLottery.Proofs.Step.Opening
import RangeLottery.Proofs.Step.Purchase
import RangeLottery.Proofs.Step.Settlement
import RangeLottery.Proofs.Step.Voiding
import RangeLottery.Step.Run

/-!
What comes of a request whose accounts are in order. Then the result is what the operation on the record
answers, and a purchase and a settlement may still find too few tokens in the purse or too little room in
a token account. The conditions under which a request is granted are the business of the effects of the
five requests; here the accounts are in order and every result is said, refusals included.
-/

namespace RangeLottery

open Session

/-- The result of a step that comes to what an operation answers. -/
def Step.answer {α : Type} : Except Refusal α → Except Fault Unit
  | .ok _ => .ok ()
  | .error reason => .error (.bare (.refusal reason))

namespace Book.Ensured

variable {b c : Book} {e : Entry} {payer wallet mint key : Key}

/-- What is neither the token account nor the payer is the same. -/
theorem account_eq (ensured : b.Ensured c e payer wallet mint) (apart : key ≠ e.key)
    (unpaid : key ≠ payer) : c.account key = b.account key := by
  refine ensured.confined.account_eq ?_ ?_
  · simpa using apart
  · simpa using And.intro unpaid apart

/-- The payer has what is left of its lamports. -/
theorem affords {due : Nat} (ensured : b.Ensured c e payer wallet mint)
    (affords : b.Affords payer (b.rentDue e.key + due)) (apart : e.key ≠ payer)
    (paid : (c.account payer).lamports.toNat + b.rentDue e.key =
      (b.account payer).lamports.toNat) : c.Affords payer due := by
  have same := ensured.confined.holding payer (by simpa using apart.symm)
  have enough := affords.lamports
  exact ⟨same.owner.trans affords.owner, same.data.trans affords.data, by omega⟩

/-- A token account stays as it is. -/
theorem tokens?_eq (ensured : b.Ensured c e payer wallet mint) {tokens : TokenAccount}
    (held : (b.account key).tokens? = some tokens) : (c.account key).tokens? = some tokens := by
  obtain ⟨amount, held'⟩ := ensured.evolves.tokens key tokens held
  have same := ensured.balance key
  rw [Account.balance_of_tokens? held, Account.balance_of_tokens? held'] at same
  obtain rfl : amount = tokens.amount := UInt64.toNat.inj same
  exact held'

end Book.Ensured

/-! ### Opening -/

namespace Opening

variable {slot capacity deadline : UInt64} {entries : List Entry} {a : Accounts} {p : Progress}

/-- The accounts of an opening are in order: the token accounts are there or can be opened, the lottery
account is missing and the authority can pay for what is missing. -/
structure InOrder (b : Book) (entries : List Entry) (a : Accounts) : Prop where
  loaded : Loaded b entries a
  checked : Checked b a
  vault_address : a.vault.key = Address.associated a.custody.key a.mint.key
  vault_writable : a.vault.writable = true
  vault : b.Available a.vault.key a.custody.key a.mint.key
  feeAccount_address : a.feeAccount.key = Address.associated a.feeCollector.key a.mint.key
  feeAccount_writable : a.feeAccount.writable = true
  feeAccount : b.Available a.feeAccount.key a.feeCollector.key a.mint.key
  lottery : b.Missing a.lottery.key
  distinct : [a.lottery.key, a.vault.key, a.feeAccount.key].Nodup
  affords : b.Affords a.authority.key (b.rentDue a.vault.key + (b.rentDue a.feeAccount.key +
    (Account.rent Lottery.width).toNat))

theorem run_result (inOrder : InOrder p.book entries a) :
    (runOn (run slot entries capacity deadline) p).1 =
      Step.answer (Lottery.launch a.authority.key a.vault.key a.feeAccount.key a.mint.key capacity
        deadline slot) := by
  obtain ⟨⟨lottery_vault, lottery_fee⟩, vault_fee⟩ :
      (a.lottery.key ≠ a.vault.key ∧ a.lottery.key ≠ a.feeAccount.key) ∧
        a.vault.key ≠ a.feeAccount.key := by
    simpa using inOrder.distinct
  have positive : 0 < (Account.rent Lottery.width).toNat := by decide
  have affords := inOrder.affords
  -- The vault is ensured, and the other accounts are as before.
  obtain ⟨q, opening, paid⟩ := exists_ensureAssociated .vault inOrder.vault_address
    inOrder.vault_writable inOrder.vault (affords.mono (Nat.le_add_right _ _))
  obtain ⟨vault, -⟩ := ensureAssociated_spec opening
  have affords_opened := vault.affords affords
    (affords.ne_of_available (by omega) inOrder.vault) paid
  have fee_opened := vault.account_eq vault_fee.symm
    (affords.ne_of_available (by omega) inOrder.feeAccount)
  have lottery_opened := vault.account_eq lottery_vault
    (affords.ne_of_missing (by omega) inOrder.lottery)
  -- So is the fee account.
  have due : p.book.rentDue a.feeAccount.key = q.book.rentDue a.feeAccount.key := by
    rw [Book.rentDue, Book.rentDue, fee_opened]
  rw [due] at affords_opened
  have fee_available := inOrder.feeAccount.congr fee_opened
  obtain ⟨r, opening', paid'⟩ := exists_ensureAssociated .feeAccount
    inOrder.feeAccount_address inOrder.feeAccount_writable fee_available
    (affords_opened.mono (Nat.le_add_right _ _))
  obtain ⟨feeAccount, -⟩ := ensureAssociated_spec opening'
  have affords_ready := feeAccount.affords affords_opened
    (affords_opened.ne_of_available (by omega) fee_available) paid'
  have lottery_ready : r.book.account a.lottery.key = p.book.account a.lottery.key :=
    (feeAccount.account_eq lottery_fee
      (affords.ne_of_missing (by omega) inOrder.lottery)).trans lottery_opened
  have missing : r.book.Missing a.lottery.key :=
    ⟨lottery_ready ▸ inOrder.lottery.owner, lottery_ready ▸ inOrder.lottery.lamports,
      lottery_ready ▸ inOrder.lottery.data⟩
  have checked : check r.book a = .ok () :=
    check_eq_ok_iff.mpr { inOrder.checked with lottery_vacant := missing.data }
  rw [run, book_bind, pass_bind (load_eq_ok_iff.mpr inOrder.loaded), runOn_bind_of_ok opening,
    runOn_bind_of_ok opening', book_bind, pass_bind checked]
  cases launched : Lottery.launch a.authority.key a.vault.key a.feeAccount.key a.mint.key capacity
    deadline slot with
  | error reason => exact accept_bind_of_error rfl
  | ok l =>
    obtain ⟨s, creating⟩ := exists_createRecord
      (p := { r with remarks := r.remarks ++ [.creatingLottery] }) missing affords_ready
      (affords_ready.ne_of_missing positive missing)
    rw [accept_bind rfl, remark_bind, runOn_bind_of_ok creating,
      saveLottery_bind (length_of_createRecord creating), remark_bind, runOn_announce]
    rfl

end Opening

/-! ### Drawing and voiding -/

/-- What a draw at `slot` answers when the slot hashes are `history`. -/
def Lottery.drawFrom (l : Lottery) (id : Key) (history : Bytes) (slot : UInt64) :
    Except Refusal UInt64 := do
  l.readyToDraw slot
  let sample ← SlotHistory.checkpoint history l.deadline
  (l.draw id sample slot).1

theorem Drawing.run_result {slot : UInt64} {entries : List Entry} {a : Accounts} {p : Progress}
    {l : Lottery} (loaded : load entries = .ok a) (checked : check p.book a = .ok ())
    (before : (p.book.account a.lottery.key).lottery? = some l) :
    (runOn (run slot entries) p).1 =
      Step.answer (l.drawFrom a.lottery.key (p.book.account a.slotHashes.key).data slot) := by
  have length := (Account.lottery?_eq_some_iff.mp before).2.2 ▸ Lottery.length_encode l
  rw [run, pass_bind loaded, book_bind, pass_bind checked, readLottery_bind before, Lottery.drawFrom]
  cases ready : l.readyToDraw slot with
  | error reason => exact accept_bind_of_error rfl
  | ok u =>
    rw [accept_bind rfl, book_bind, remarkAll_bind]
    cases found : SlotHistory.checkpoint (p.book.account a.slotHashes.key).data l.deadline with
    | error reason => exact accept_bind_of_error rfl
    | ok sample =>
      rw [accept_bind rfl]
      change _ = Step.answer (l.draw a.lottery.key sample slot).1
      cases l.draw a.lottery.key sample slot with
      | mk drawn after =>
        rw [remarkAll_bind]
        cases drawn with
        | error reason => exact accept_bind_of_error rfl
        | ok number =>
          rw [accept_bind rfl, saveLottery_bind, remark_bind, runOn_announce]
          · rfl
          · exact length

theorem Voiding.run_result {slot : UInt64} {entries : List Entry} {a : Accounts} {p : Progress}
    {l : Lottery} (loaded : load entries = .ok a) (checked : check p.book a = .ok ())
    (before : (p.book.account a.lottery.key).lottery? = some l)
    (authorized : a.authority.key = l.authority) :
    (runOn (run slot entries) p).1 = Step.answer (l.void slot).1 := by
  have length := (Account.lottery?_eq_some_iff.mp before).2.2 ▸ Lottery.length_encode l
  rw [run, pass_bind loaded, book_bind, pass_bind checked, readLottery_bind before,
    accept_bind (Lottery.authorize_eq_ok_iff.mpr authorized)]
  cases l.void slot with
  | mk closed after =>
    cases closed with
    | error reason => exact accept_bind_of_error rfl
    | ok u =>
      rw [accept_bind rfl, saveLottery_bind length, remark_bind, runOn_announce]
      rfl

/-! ### Purchase -/

namespace Purchase

variable {slot amount : UInt64} {entries : List Entry} {a : Accounts} {p : Progress} {l : Lottery}

/-- The result of a purchase that the record answers so, when there are `purse` tokens to pay from and
`vault` tokens in the vault. -/
def verdict (answer : Except Refusal Ticket) (amount : UInt64) (purse vault : Nat) :
    Except Fault Unit :=
  match answer with
  | .error reason => .error (.bare (.refusal reason))
  | .ok _ =>
    if purse < amount.toNat then .error (.ofStep .insufficientFunds)
    else if UInt64.size ≤ vault + amount.toNat then .error (.bare (.ledger .amountOverflow))
    else .ok ()

/-- The accounts of a purchase of `l` are in order: they agree with the record, the ticket account is
missing, the buyer can pay for it and the purse is not the vault. -/
structure InOrder (b : Book) (entries : List Entry) (a : Accounts) (l : Lottery) : Prop where
  loaded : Loaded b entries a
  checked : Checked b a
  before : (b.account a.lottery.key).lottery? = some l
  vault : a.vault.key = l.vault
  mint : a.mint.key = l.mint
  ticket : b.Missing a.ticket.key
  affords : b.Affords a.buyer.key (Account.rent Ticket.width).toNat
  apart : a.purse.key ≠ a.vault.key

/-- What a purchase does once the record has granted it. -/
def pay (a : Accounts) (sold : Lottery) (t : Ticket) (amount : UInt64) : Session Unit := do
  remark .creatingTicket
  createRecord a.buyer.key a.ticket.key Ticket.width
  transfer a.purse.key a.mint.key a.vault.key a.buyer.key amount a.decimals []
  saveTicket a.ticket.key t
  saveLottery a.lottery.key sold
  remark (.ticketSold a.ticket.key t.start t.stop)
  announce (.bought a.lottery.key a.ticket.key a.buyer.key t.start t.stop t.size sold.sold)

theorem pay_result (inOrder : InOrder p.book entries a l) {vaultTokens : TokenAccount}
    (vault_held : (p.book.account a.vault.key).tokens? = some vaultTokens)
    (enough : amount ≤ a.purseTokens.amount) (sold : Lottery) (t : Ticket) :
    (runOn (pay a sold t amount) p).1 =
      if UInt64.size ≤ vaultTokens.amount.toNat + amount.toNat then
        .error (.bare (.ledger .amountOverflow))
      else .ok () := by
  obtain ⟨r, creating⟩ := exists_createRecord
    (p := { p with remarks := p.remarks ++ [.creatingTicket] }) inOrder.ticket inOrder.affords
    (inOrder.affords.ne_of_missing (by decide) inOrder.ticket)
  obtain ⟨allocated, -⟩ := createRecord_spec creating
  have confined := Book.confined_of_allocate allocated
  -- Creating the ticket account touches no token account.
  have held : ∀ {key tokens}, (p.book.account key).tokens? = some tokens →
      (r.book.account key).tokens? = some tokens := by
    intro key tokens found
    have apart : key ≠ a.ticket.key := by
      rintro rfl
      rw [Account.tokens?_eq_none_of_vacant inOrder.ticket.data] at found
      cases found
    exact (confined.holding key (by simpa using apart)).tokens?_eq.trans found
  have purse := held inOrder.loaded.purse_held
  have vault := held vault_held
  rw [pay, remark_bind, runOn_bind_of_ok creating]
  split
  · rename_i full
    exact runOn_bind_of_error (transfer_eq_amountOverflow purse vault enough inOrder.apart full)
  · rename_i room
    obtain ⟨s, paying⟩ := exists_transfer a.mint.key a.buyer.key a.decimals [] purse vault enough
      (.inr (Nat.not_le.mp room))
    obtain ⟨stages, -⟩ := stages_of_calls creating paying inOrder.loaded sold t
    have apart : a.lottery.key ≠ a.ticket.key := by
      intro same
      exact Account.data_ne_nil_of_lottery? inOrder.before (same ▸ inOrder.ticket.data)
    rw [runOn_bind_of_ok paying, saveTicket_bind stages.ticket_owned.2, saveLottery_bind,
      remark_bind, runOn_announce]
    rw [Book.account_modify_of_ne apart]
    exact (stages.evolves_paid.lottery_owned inOrder.before).2

theorem run_result (inOrder : InOrder p.book entries a l) :
    (runOn (run slot entries amount) p).1 =
      verdict (l.issue a.lottery.key a.buyer.key amount slot).1 amount
        (p.book.account a.purse.key).balance (p.book.account a.vault.key).balance := by
  have loaded := inOrder.loaded
  obtain ⟨vaultTokens, vault_held⟩ := loaded.vault_held
  rw [Account.balance_of_tokens? loaded.purse_held, Account.balance_of_tokens? vault_held]
  rw [run, book_bind, pass_bind (load_eq_ok_iff.mpr loaded), book_bind,
    pass_bind (a := ()) (check_eq_ok_iff.mpr inOrder.checked), readLottery_bind inOrder.before,
    pass_bind (a := ()) (Check.agrees_eq_ok_iff.mpr inOrder.vault),
    pass_bind (a := ()) (Check.agrees_eq_ok_iff.mpr inOrder.mint)]
  cases l.issue a.lottery.key a.buyer.key amount slot with
  | mk issued sold =>
    cases issued with
    | error reason => exact accept_bind_of_error rfl
    | ok t =>
      rw [accept_bind rfl]
      dsimp only [verdict]
      by_cases short : a.purseTokens.amount < amount
      · rw [if_pos short, if_pos (UInt64.lt_iff_toNat_lt.mp short), remark_bind]
        exact runOn_bind_of_error rfl
      · rw [if_neg short, if_neg (mt UInt64.lt_iff_toNat_lt.mpr short)]
        exact pay_result inOrder vault_held (UInt64.not_lt.mp short) sold t

end Purchase

/-! ### Settlement -/

namespace Settlement

variable {entries : List Entry} {a : Accounts} {p : Progress} {l : Lottery} {t : Ticket}

/-- The result of a settlement that the record answers so, when the token accounts have the balances
`held`: the share of the winner has to fit into the one account and the fee into the other. -/
def verdict (answer : Except Refusal Payout) (held : Key → Nat) (vault prize collector : Key) :
    Except Fault Unit :=
  match answer with
  | .error reason => .error (.bare (.refusal reason))
  | .ok payout =>
    if UInt64.size ≤ held prize + payout.winner.toNat then .error (.bare (.ledger .amountOverflow))
    else if vault ≠ collector ∧ UInt64.size ≤
        held collector + (if collector = prize then payout.winner.toNat else 0) +
          payout.fee.toNat then
      .error (.bare (.ledger .amountOverflow))
    else .ok ()

/-- The accounts of a settlement of `l` for `t` are in order: they agree with the records, and the
token account of the winner is there or can be opened and is not the vault. -/
structure InOrder (b : Book) (entries : List Entry) (a : Accounts) (l : Lottery) (t : Ticket) :
    Prop where
  loaded : Loaded b entries a
  checked : Checked b a
  before : (b.account a.lottery.key).lottery? = some l
  ticket : (b.account a.ticket.key).ticket? = some t
  authorized : a.authority.key = l.authority
  vault : a.vault.key = l.vault
  feeAccount : a.feeAccount.key = l.feeAccount
  mint : a.mint.key = l.mint
  winner : a.winner.key = t.buyer
  prize_address : a.prizeAccount.key = Address.associated a.winner.key a.mint.key
  prize_writable : a.prizeAccount.writable = true
  prize : b.Available a.prizeAccount.key a.winner.key a.mint.key
  affords : b.Affords a.authority.key (b.rentDue a.prizeAccount.key)
  apart : a.vault.key ≠ a.prizeAccount.key

/-- What a settlement does once the record has granted it. -/
def pay (a : Accounts) (settled : Lottery) (payout : Payout) : Session Unit := do
  let seeds := [custodySeeds a.lottery.key]
  remark (.payingWinner payout.winner a.vaultTokens.amount)
  transfer a.vault.key a.mint.key a.prizeAccount.key a.custody.key payout.winner a.decimals seeds
  remark (.payingFee payout.fee)
  transfer a.vault.key a.mint.key a.feeAccount.key a.custody.key payout.fee a.decimals seeds
  saveLottery a.lottery.key settled
  let total ← accept payout.total
  announce (.settled a.lottery.key a.ticket.key a.winner.key total payout.winner payout.fee)

theorem pay_result {prizeTokens feeTokens : TokenAccount} {payout : Payout}
    (before : (p.book.account a.lottery.key).lottery? = some l)
    (vault : (p.book.account a.vault.key).tokens? = some a.vaultTokens)
    (prize : (p.book.account a.prizeAccount.key).tokens? = some prizeTokens)
    (collector : (p.book.account a.feeAccount.key).tokens? = some feeTokens)
    (apart : a.vault.key ≠ a.prizeAccount.key)
    (whole : payout.winner.toNat + payout.fee.toNat = a.vaultTokens.amount.toNat)
    (settled : Lottery) :
    (runOn (pay a settled payout) p).1 =
      verdict (.ok payout) (fun key => (p.book.account key).balance) a.vault.key
        a.prizeAccount.key a.feeAccount.key := by
  simp only [verdict, Account.balance_of_tokens? prize, Account.balance_of_tokens? collector]
  rw [pay, remark_bind]
  split
  · rename_i full
    exact runOn_bind_of_error (transfer_eq_amountOverflow vault prize
      (UInt64.le_iff_toNat_le.mpr (by omega)) apart full)
  · rename_i room
    obtain ⟨s, rewarding⟩ := exists_transfer a.mint.key a.custody.key a.decimals
      [custodySeeds a.lottery.key]
      (p := { p with remarks := p.remarks ++ [.payingWinner payout.winner a.vaultTokens.amount] })
      vault prize (UInt64.le_iff_toNat_le.mpr (by omega)) (.inr (Nat.not_le.mp room))
    obtain ⟨rewarded, rewarded_evolves, -, -⟩ := transfer_spec rewarding vault prize
    -- The vault has the fee left, and the fee account may have received the winner's share.
    obtain ⟨left, vault_left⟩ := rewarded_evolves.tokens _ _ vault
    obtain ⟨received, fee_received⟩ := rewarded_evolves.tokens _ _ collector
    have left_eq := rewarded a.vault.key
    have received_eq := rewarded a.feeAccount.key
    rw [Account.balance_of_tokens? vault_left, Account.balance_of_tokens? vault, if_pos rfl,
      if_neg apart] at left_eq
    rw [Account.balance_of_tokens? fee_received, Account.balance_of_tokens? collector]
      at received_eq
    dsimp only at left_eq received_eq
    have enough : payout.fee ≤ left := UInt64.le_iff_toNat_le.mpr (by omega)
    rw [runOn_bind_of_ok rewarding, remark_bind]
    by_cases full : a.vault.key ≠ a.feeAccount.key ∧ UInt64.size ≤ feeTokens.amount.toNat +
        (if a.feeAccount.key = a.prizeAccount.key then payout.winner.toNat else 0) +
          payout.fee.toNat
    · rw [if_neg (Ne.symm full.1), Nat.add_zero] at received_eq
      rw [if_pos full]
      exact runOn_bind_of_error (transfer_eq_amountOverflow vault_left fee_received enough full.1
        (received_eq ▸ full.2))
    · rw [if_neg full]
      have fits : a.vault.key = a.feeAccount.key ∨
          received.toNat + payout.fee.toNat < UInt64.size := by
        by_cases same : a.vault.key = a.feeAccount.key
        · exact .inl same
        · rw [if_neg (Ne.symm same), Nat.add_zero] at received_eq
          rw [received_eq]
          exact .inr (Nat.not_le.mp fun more => full ⟨same, more⟩)
      obtain ⟨v, paying⟩ := exists_transfer a.mint.key a.custody.key a.decimals
        [custodySeeds a.lottery.key]
        (p := { s with remarks := s.remarks ++ [.payingFee payout.fee] })
        vault_left fee_received enough fits
      obtain ⟨-, paid_evolves, -, -⟩ := transfer_spec paying vault_left fee_received
      have length := ((rewarded_evolves.trans paid_evolves).lottery_owned before).2
      rw [runOn_bind_of_ok paying, saveLottery_bind length,
        accept_bind (Payout.total_eq_ok_iff.mpr whole), runOn_announce]

theorem run_result (inOrder : InOrder p.book entries a l t) :
    (runOn (run entries) p).1 =
      verdict (l.settle a.lottery.key t a.vaultTokens.amount).1
        (fun key => (p.book.account key).balance) a.vault.key a.prizeAccount.key
        a.feeAccount.key := by
  have loaded := inOrder.loaded
  obtain ⟨q, opening, -⟩ := exists_ensureAssociated .prizeAccount inOrder.prize_address
    inOrder.prize_writable inOrder.prize inOrder.affords
  obtain ⟨ensured, -⟩ := ensureAssociated_spec opening
  -- The records are no token accounts, so they are still there.
  have kept : ∀ {key}, (p.book.account key).owner = Known.lotteryProgram →
      (p.book.account key).SameHolding (q.book.account key) := by
    intro key owned
    refine ensured.confined.holding key fun mem => ensured.foreign ?_
    rwa [← List.mem_singleton.mp mem]
  have before := (kept inOrder.checked.lottery_owned).lottery?_eq.trans inOrder.before
  have ticket := (kept inOrder.checked.ticket_owned).ticket?_eq.trans inOrder.ticket
  have checked : Checked q.book a := { inOrder.checked with
    lottery_owned := ensured.owned inOrder.checked.lottery_owned
    ticket_owned := ensured.owned inOrder.checked.ticket_owned }
  rw [run, book_bind, pass_bind (load_eq_ok_iff.mpr loaded), runOn_bind_of_ok opening, book_bind,
    pass_bind (a := ()) (check_eq_ok_iff.mpr checked), readLottery_bind before,
    accept_bind (Lottery.authorize_eq_ok_iff.mpr inOrder.authorized),
    pass_bind (a := ()) (Check.agrees_eq_ok_iff.mpr inOrder.vault),
    pass_bind (a := ()) (Check.agrees_eq_ok_iff.mpr inOrder.feeAccount),
    pass_bind (a := ()) (Check.agrees_eq_ok_iff.mpr inOrder.mint), readTicket_bind ticket,
    pass_bind (a := ()) (Check.agrees_eq_ok_iff.mpr inOrder.winner)]
  dsimp only
  cases settling : l.settle a.lottery.key t a.vaultTokens.amount with
  | mk divided settled =>
    cases divided with
    | error reason => exact accept_bind_of_error rfl
    | ok payout =>
      obtain ⟨-, -, -, split, -⟩ := Lottery.settle_eq_ok_iff.mp settling
      obtain ⟨_, prize⟩ := ensured.associated.tokens
      have balances : (fun key => (p.book.account key).balance) =
          fun key => (q.book.account key).balance := funext fun key => (ensured.balance key).symm
      rw [accept_bind rfl, balances]
      exact pay_result before (ensured.tokens?_eq loaded.vault_held) prize
        (ensured.tokens?_eq loaded.feeAccount_held) inOrder.apart
        (Payout.split_eq_ok_iff.mp split).2 settled

end Settlement

/-! ### The step -/

/-- A call whose data are the written form of a request is served on the book. -/
theorem Step.result_of_request {s : Step} {b : Book} {expected : Except Fault Unit}
    (request : Request) (program : s.call.program = Known.lotteryProgram)
    (data : s.call.data = request.encode)
    (served : ∀ p : Progress, p.book = b →
      ((serve s.slot s.call.accounts request).runOn p).1 = expected) :
    (s.run b).result = expected := by
  have decoded : Request.decode s.call.data = .ok request := by
    rw [data, Request.decode, Request.decode?_encode]
    rfl
  have ran : (s.run b).result = (s.session.runOn (Progress.start b)).1 := rfl
  rw [ran, session, if_neg (Classical.not_not.mpr program), Session.accept_bind decoded,
    Session.remark_bind]
  exact served _ rfl

end RangeLottery
