import RangeLottery.Proofs.Run.Deposits
import RangeLottery.Proofs.Step.Answer

/-!
The calls of a client agree with the checks of the program. A client makes the list of accounts of a call
out of a few keys and the record of the lottery; the program has an order, rights and addresses of its
own that it expects. When the accounts are such as the request is meant for, the program finds the list
in order, and what comes of the step is what the operation on the record answers: no account is refused.
-/

namespace RangeLottery

/-! ### Listed accounts -/

@[simp] theorem Entry.key_mutable (key : Key) : (Entry.mutable key).key = key :=
  rfl

@[simp] theorem Entry.key_reading (key : Key) : (Entry.reading key).key = key :=
  rfl

/-- A program that is listed and runs. -/
theorem Book.exists_program {b : Book} {entries : List Entry} {place : Nat} {key : Key}
    (listed : entries[place]? = some (.reading key)) (runs : (b.account key).executable = true) :
    ∃ e, entries[place]? = some e ∧ e.key = key ∧ (b.account e.key).executable = true :=
  ⟨_, listed, rfl, runs⟩

/-! ### The vault of a recorded lottery -/

/-- In every run, the vault of a lottery is the associated token account of its custody address. -/
theorem Book.vault_eq_through {b : Book} (unclaimed : b.Unclaimed) (moments : List Moment) {key : Key}
    {l : Lottery} (recorded : ((b.through moments).account key).lottery? = some l) :
    l.vault = Address.associated (Address.custody key).address l.mint := by
  induction moments using List.reverseRecOn generalizing l with
  | nil => exact absurd (Account.lottery?_eq_some_iff.mp recorded).1 (unclaimed key)
  | append_singleton earlier m ih =>
    rw [through_concat] at recorded
    rcases Moment.lottery_cases recorded with ⟨l₀, before, same⟩ | ⟨_, _, a, rfl, effect⟩
    · rw [same.vault_eq, same.mint_eq]
      exact ih before
    · have address := effect.vault_address
      rw [effect.checked.custody] at address
      obtain ⟨-, -, rfl⟩ := Lottery.launch_eq_ok_iff.mp effect.granted
      exact address

/-! ### Accounts that a request is meant for -/

/-- The three programs that a step calls are there, and `mint` is a mint. -/
structure Book.Serves (b : Book) (mint : Key) : Prop where
  tokenProgram : (b.account Known.tokenProgram).executable = true
  associatedTokenProgram : (b.account Known.associatedTokenProgram).executable = true
  systemProgram : (b.account Known.systemProgram).executable = true
  mint_owned : (b.account mint).owner = Known.tokenProgram
  mint_decoded : ∃ m, Mint.decode (b.account mint).data = .ok m

namespace Client

/-- A lottery can be opened at `lottery`: nobody has created the account, the vault and the fee account
are there or can be opened, and the authority has the lamports for what is missing. -/
structure LaunchReady (b : Book) (lottery authority custody vault feeAccount mint : Key) : Prop where
  serves : b.Serves mint
  fresh : b.Missing lottery
  custody_eq : custody = (Address.custody lottery).address
  vault_eq : vault = Address.associated custody mint
  vault_available : b.Available vault custody mint
  feeAccount_eq : feeAccount = Address.associated Known.feeCollector mint
  feeAccount_available : b.Available feeAccount Known.feeCollector mint
  affords : b.Affords authority
    (b.rentDue vault + (b.rentDue feeAccount + (Account.rent Lottery.width).toNat))

/-- Numbers of `l` can be bought: nobody has created the ticket account, the buyer has the lamports for
it and keeps tokens at `purse`. -/
structure BuyReady (b : Book) (lottery : Key) (l : Lottery) (ticket buyer purse : Key) : Prop where
  recorded : (b.account lottery).lottery? = some l
  serves : b.Serves l.mint
  ticket : b.Missing ticket
  affords : b.Affords buyer (Account.rent Ticket.width).toNat
  foreign : buyer ≠ (Address.custody lottery).address
  purse : ∃ amount, (b.account purse).tokens? = some ⟨l.mint, buyer, amount⟩

/-- The buyer of `t` can be paid: the token account of the buyer is there or can be opened, and the
authority of `l` has the lamports for it. -/
structure SettleReady (b : Book) (lottery : Key) (l : Lottery) (ticket : Key) (t : Ticket)
    (prizeAccount : Key) : Prop where
  recorded : (b.account lottery).lottery? = some l
  serves : b.Serves l.mint
  ticket : (b.account ticket).ticket? = some t
  foreign : t.buyer ≠ (Address.custody lottery).address
  prize_eq : prizeAccount = Address.associated t.buyer l.mint
  prize : b.Available prizeAccount t.buyer l.mint
  affords : b.Affords l.authority (b.rentDue prizeAccount)

/-- The calls that a client prepares for a step on `b` at `slot`, each with the result that the
operation on the record calls for. An opening may create three accounts, so their addresses have to be
apart: a lottery cannot take the address of a token account. -/
inductive Prepared (b : Book) (slot : UInt64) : Call → Except Fault Unit → Prop
  | launch {lottery authority custody vault feeAccount mint : Key} {capacity deadline : UInt64}
      (ready : LaunchReady b lottery authority custody vault feeAccount mint)
      (distinct : [lottery, vault, feeAccount].Nodup) :
      Prepared b slot (launch Known.lotteryProgram lottery authority mint capacity deadline)
        (Step.answer (Lottery.launch authority vault feeAccount mint capacity deadline slot))
  | buy {lottery ticket buyer purse : Key} {l : Lottery} {amount : UInt64}
      (ready : BuyReady b lottery l ticket buyer purse) :
      Prepared b slot (buy Known.lotteryProgram lottery l ticket buyer purse amount)
        (Purchase.verdict (l.issue lottery buyer amount slot).1 amount
          (b.account purse).balance (b.account l.vault).balance)
  | draw {lottery : Key} {l : Lottery} (recorded : (b.account lottery).lottery? = some l)
      (caller : Key) :
      Prepared b slot (draw Known.lotteryProgram lottery caller)
        (Step.answer (l.drawFrom lottery (b.account Known.slotHashes).data slot))
  | settle {lottery ticket prizeAccount : Key} {l : Lottery} {t : Ticket}
      (ready : SettleReady b lottery l ticket t prizeAccount) :
      Prepared b slot (settle Known.lotteryProgram lottery l l.authority ticket t.buyer)
        (Settlement.verdict (l.settle lottery t (.ofNat (b.account l.vault).balance)).1
          (fun key => (b.account key).balance) l.vault prizeAccount l.feeAccount)
  | void {lottery : Key} {l : Lottery} (recorded : (b.account lottery).lottery? = some l) :
      Prepared b slot (void Known.lotteryProgram lottery l.authority)
        (Step.answer (l.void slot).1)

/-! ### The five calls -/

section Calls

variable {b : Book} {slot : UInt64} {lottery : Key} {l : Lottery}

section Launch

variable {authority custody vault feeAccount mint : Key} {capacity deadline : UInt64}

theorem LaunchReady.accounts_eq
    (ready : LaunchReady b lottery authority custody vault feeAccount mint) :
    (launch Known.lotteryProgram lottery authority mint capacity deadline).accounts =
      [.mutableSigner lottery, .mutableSigner authority, .reading Known.feeCollector,
        .reading custody, .mutable vault, .mutable feeAccount, .reading mint,
        .reading Known.tokenProgram, .reading Known.associatedTokenProgram,
        .reading Known.systemProgram] := by
  rw [ready.feeAccount_eq, ready.vault_eq, ready.custody_eq]
  rfl

theorem LaunchReady.inOrder
    (ready : LaunchReady b lottery authority custody vault feeAccount mint)
    (distinct : [lottery, vault, feeAccount].Nodup) :
    Opening.InOrder b
      (launch Known.lotteryProgram lottery authority mint capacity deadline).accounts {
        lottery := .mutableSigner lottery
        authority := .mutableSigner authority
        feeCollector := .reading Known.feeCollector
        custody := .reading custody
        vault := .mutable vault
        feeAccount := .mutable feeAccount
        mint := .reading mint } := by
  rw [ready.accounts_eq]
  exact {
    loaded := {
      lottery := rfl
      lottery_signs := rfl
      authority := rfl
      authority_signs := rfl
      feeCollector := rfl
      custody := rfl
      vault := rfl
      feeAccount := rfl
      mint := rfl
      mint_owned := ready.serves.mint_owned
      mint_decoded := ready.serves.mint_decoded
      tokenProgram := Book.exists_program rfl ready.serves.tokenProgram
      associatedTokenProgram := Book.exists_program rfl ready.serves.associatedTokenProgram
      systemProgram := Book.exists_program rfl ready.serves.systemProgram }
    checked := {
      lottery_writable := rfl
      lottery_vacant := ready.fresh.data
      authority_writable := rfl
      feeCollector := Entry.key_reading _
      custody := ready.custody_eq }
    vault_address := ready.vault_eq
    vault_writable := rfl
    vault := ready.vault_available
    feeAccount_address := by
      simpa only [Entry.key_mutable, Entry.key_reading] using ready.feeAccount_eq
    feeAccount_writable := rfl
    feeAccount := by
      simpa only [Entry.key_mutable, Entry.key_reading] using ready.feeAccount_available
    lottery := ready.fresh
    distinct := distinct
    affords := ready.affords }

theorem LaunchReady.result_eq
    (ready : LaunchReady b lottery authority custody vault feeAccount mint)
    (distinct : [lottery, vault, feeAccount].Nodup) :
    (Step.run ⟨slot, launch Known.lotteryProgram lottery authority mint capacity deadline⟩ b).result =
      Step.answer (Lottery.launch authority vault feeAccount mint capacity deadline slot) := by
  apply Step.result_of_request (.launch capacity deadline) rfl rfl
  rintro p rfl
  exact Opening.run_result (ready.inOrder distinct)

end Launch

section Buy

variable {ticket buyer purse : Key} {amount : UInt64} {earlier : List Moment}

theorem BuyReady.inOrder {tokens : TokenAccount} {m : Mint}
    (ready : BuyReady b lottery l ticket buyer purse) (guarded : b.Guarded earlier)
    (held : (b.account purse).tokens? = some tokens)
    (decoded : Mint.decode (b.account l.mint).data = .ok m) :
    Purchase.InOrder b (buy Known.lotteryProgram lottery l ticket buyer purse amount).accounts {
      lottery := .mutable lottery
      ticket := .mutableSigner ticket
      buyer := .mutableSigner buyer
      vault := .mutable l.vault
      purse := .mutable purse
      purseTokens := tokens
      mint := .reading l.mint
      decimals := m.decimals } l := by
  obtain ⟨_, vault_held⟩ := guarded.vault lottery l ready.recorded
  obtain ⟨_, kept⟩ := ready.purse
  obtain rfl := Option.some.inj (held.symm.trans kept)
  exact {
    loaded := {
      lottery := rfl
      ticket := rfl
      ticket_signs := rfl
      buyer := rfl
      buyer_signs := rfl
      vault := rfl
      vault_held := ⟨_, vault_held⟩
      purse := rfl
      purse_held := held
      mint := rfl
      mint_owned := ready.serves.mint_owned
      mint_decoded := decoded
      tokenProgram := Book.exists_program rfl ready.serves.tokenProgram
      systemProgram := Book.exists_program rfl ready.serves.systemProgram }
    checked := {
      lottery_writable := rfl
      lottery_owned := (Account.lottery?_eq_some_iff.mp ready.recorded).1
      ticket_writable := rfl
      ticket_vacant := ready.ticket.data
      buyer_writable := rfl
      vault_writable := rfl
      purse_writable := rfl
      purse_mint := rfl
      purse_owner := rfl }
    before := ready.recorded
    vault := rfl
    mint := rfl
    ticket := ready.ticket
    affords := ready.affords
    apart := (guarded.ne_vault ready.recorded held ready.foreign).symm }

theorem BuyReady.result_eq (ready : BuyReady b lottery l ticket buyer purse)
    (guarded : b.Guarded earlier) :
    (Step.run ⟨slot, buy Known.lotteryProgram lottery l ticket buyer purse amount⟩ b).result =
      Purchase.verdict (l.issue lottery buyer amount slot).1 amount (b.account purse).balance
        (b.account l.vault).balance := by
  obtain ⟨_, held⟩ := ready.purse
  obtain ⟨_, decoded⟩ := ready.serves.mint_decoded
  apply Step.result_of_request (.buy amount) rfl rfl
  rintro p rfl
  exact Purchase.run_result (ready.inOrder guarded held decoded)

end Buy

theorem result_draw (recorded : (b.account lottery).lottery? = some l) (caller : Key) :
    (Step.run ⟨slot, draw Known.lotteryProgram lottery caller⟩ b).result =
      Step.answer (l.drawFrom lottery (b.account Known.slotHashes).data slot) := by
  have owned := (Account.lottery?_eq_some_iff.mp recorded).1
  apply Step.result_of_request .draw rfl rfl
  rintro p rfl
  exact Drawing.run_result (a := ⟨.mutable lottery, .signing caller, .reading Known.slotHashes⟩)
    (Drawing.load_eq_ok_iff.mpr ⟨rfl, rfl, rfl, rfl⟩)
    (Drawing.check_eq_ok_iff.mpr ⟨rfl, owned, Entry.key_reading _⟩) recorded

section Settle

variable {ticket prizeAccount : Key} {t : Ticket} {earlier : List Moment}

theorem SettleReady.accounts_eq (ready : SettleReady b lottery l ticket t prizeAccount)
    {custody : Key} (custody_eq : custody = (Address.custody lottery).address) :
    (settle Known.lotteryProgram lottery l l.authority ticket t.buyer).accounts =
      [.mutable lottery, .mutableSigner l.authority, .reading custody, .mutable l.vault,
        .mutable l.feeAccount, .mutable prizeAccount, .reading ticket, .reading t.buyer,
        .reading l.mint, .reading Known.tokenProgram, .reading Known.associatedTokenProgram,
        .reading Known.systemProgram] := by
  rw [ready.prize_eq, custody_eq]
  rfl

/-- The token account of the winner is not the vault: the vault belongs to another wallet. -/
theorem SettleReady.ne_prizeAccount (ready : SettleReady b lottery l ticket t prizeAccount)
    (guarded : b.Guarded earlier) : l.vault ≠ prizeAccount := by
  rcases ready.prize with missing | keeps
  · intro same
    obtain ⟨_, held⟩ := guarded.vault lottery l ready.recorded
    rw [same, Account.tokens?_eq_none_of_vacant missing.data] at held
    cases held
  · obtain ⟨_, held⟩ := keeps.held
    exact guarded.ne_vault ready.recorded held ready.foreign

theorem SettleReady.inOrder {vaultTokens feeTokens : TokenAccount} {m : Mint} {custody : Key}
    (ready : SettleReady b lottery l ticket t prizeAccount) (guarded : b.Guarded earlier)
    (custody_eq : custody = (Address.custody lottery).address)
    (vault_eq : l.vault = Address.associated custody l.mint)
    (held : (b.account l.vault).tokens? = some vaultTokens)
    (held' : (b.account l.feeAccount).tokens? = some feeTokens)
    (decoded : Mint.decode (b.account l.mint).data = .ok m) :
    Settlement.InOrder b
      (settle Known.lotteryProgram lottery l l.authority ticket t.buyer).accounts {
        lottery := .mutable lottery
        authority := .mutableSigner l.authority
        custody := .reading custody
        vault := .mutable l.vault
        vaultTokens
        feeAccount := .mutable l.feeAccount
        feeTokens
        prizeAccount := .mutable prizeAccount
        ticket := .reading ticket
        winner := .reading t.buyer
        mint := .reading l.mint
        decimals := m.decimals } l t := by
  obtain ⟨_, vault_held⟩ := guarded.vault lottery l ready.recorded
  obtain ⟨_, fee_held⟩ := guarded.feeAccount lottery l ready.recorded
  rw [← custody_eq] at vault_held
  obtain rfl := Option.some.inj (held.symm.trans vault_held)
  obtain rfl := Option.some.inj (held'.symm.trans fee_held)
  rw [ready.accounts_eq custody_eq]
  exact {
    loaded := {
      lottery := rfl
      authority := rfl
      authority_signs := rfl
      custody := rfl
      vault := rfl
      vault_held := held
      feeAccount := rfl
      feeAccount_held := held'
      prizeAccount := rfl
      ticket := rfl
      winner := rfl
      mint := rfl
      mint_owned := ready.serves.mint_owned
      mint_decoded := decoded
      tokenProgram := Book.exists_program rfl ready.serves.tokenProgram
      associatedTokenProgram := Book.exists_program rfl ready.serves.associatedTokenProgram
      systemProgram := Book.exists_program rfl ready.serves.systemProgram }
    checked := {
      lottery_writable := rfl
      lottery_owned := (Account.lottery?_eq_some_iff.mp ready.recorded).1
      authority_writable := rfl
      custody := custody_eq
      vault_owner := rfl
      vault_address := vault_eq
      vault_writable := rfl
      feeAccount_writable := rfl
      feeAccount_mint := rfl
      ticket_owned := (Account.ticket?_eq_some_iff.mp ready.ticket).1 }
    before := ready.recorded
    ticket := ready.ticket
    authorized := rfl
    vault := rfl
    feeAccount := rfl
    mint := rfl
    winner := rfl
    prize_address := ready.prize_eq
    prize_writable := rfl
    prize := ready.prize
    affords := ready.affords
    apart := ready.ne_prizeAccount guarded }

theorem SettleReady.result_eq (ready : SettleReady b lottery l ticket t prizeAccount)
    (guarded : b.Guarded earlier)
    (vault_eq : l.vault = Address.associated (Address.custody lottery).address l.mint) :
    (Step.run ⟨slot, settle Known.lotteryProgram lottery l l.authority ticket t.buyer⟩ b).result =
      Settlement.verdict (l.settle lottery t (.ofNat (b.account l.vault).balance)).1
        (fun key => (b.account key).balance) l.vault prizeAccount l.feeAccount := by
  obtain ⟨_, held⟩ := guarded.vault lottery l ready.recorded
  obtain ⟨_, held'⟩ := guarded.feeAccount lottery l ready.recorded
  obtain ⟨_, decoded⟩ := ready.serves.mint_decoded
  -- The custody address is compared and never computed.
  obtain ⟨custody, custody_eq⟩ : ∃ custody, custody = (Address.custody lottery).address := ⟨_, rfl⟩
  rw [← custody_eq] at vault_eq
  rw [Account.balance_of_tokens? held, UInt64.ofNat_toNat]
  apply Step.result_of_request .settle rfl rfl
  rintro p rfl
  exact Settlement.run_result (ready.inOrder guarded custody_eq vault_eq held held' decoded)

end Settle

theorem result_void (recorded : (b.account lottery).lottery? = some l) :
    (Step.run ⟨slot, void Known.lotteryProgram lottery l.authority⟩ b).result =
      Step.answer (l.void slot).1 := by
  have owned := (Account.lottery?_eq_some_iff.mp recorded).1
  apply Step.result_of_request .void rfl rfl
  rintro p rfl
  exact Voiding.run_result (a := ⟨.mutable lottery, .signing l.authority⟩)
    (Voiding.load_eq_ok_iff.mpr ⟨rfl, rfl, rfl⟩) (Voiding.check_eq_ok_iff.mpr ⟨rfl, owned⟩)
    recorded rfl

end Calls

end Client

/-- In every run, a call that a client prepares has the result that the operation on the record calls
for. A purchase may still ask for more tokens than there are in the purse, and in a purchase and a
settlement the tokens may be too many for an account; nothing else is refused. -/
theorem prepared_call_answered {b : Book} (unclaimed : b.Unclaimed) (moments : List Moment)
    {slot : UInt64} {call : Call} {expected : Except Fault Unit}
    (prepared : Client.Prepared (b.through moments) slot call expected) :
    (Step.run ⟨slot, call⟩ (b.through moments)).result = expected := by
  have guarded := Book.guarded_through unclaimed moments
  cases prepared with
  | launch ready distinct => exact ready.result_eq distinct
  | buy ready => exact ready.result_eq guarded
  | draw recorded caller => exact Client.result_draw recorded caller
  | settle ready =>
    exact ready.result_eq guarded (Book.vault_eq_through unclaimed moments ready.recorded)
  | void recorded => exact Client.result_void recorded

namespace Sample

/-- The record of the lottery after the draw. -/
def drawnLottery : Lottery :=
  { launched with kind := .drawn, number := 19, sold := 40 }

/-- The custody address of a lottery at the address of the fee account. -/
def feeCustody : Key :=
  .ofNat 0x20cea74138df67c3c0a620587966b0ab0568b6ac2635c7a6de35032ffdefcc79

/-- The vault of a lottery at the address of the fee account. -/
def feeVault : Key :=
  .ofNat 0x5d679c6c47e11ddc20a0ae78c13af794cabf98ccd2b358fb9609fa158511da63

end Sample

/-- The settlement of the sample lottery is granted: the token account of the buyer is still missing. -/
theorem prepared_settlement_answered :
    Sample.book.Unclaimed ∧
      Client.SettleReady Sample.drawn Sample.lottery Sample.drawnLottery Sample.ticket
        ⟨Sample.lottery, Sample.buyer, 0, 40⟩ Sample.prizeAccount ∧
      (Step.run ⟨61, Client.settle Known.lotteryProgram Sample.lottery Sample.drawnLottery
        Sample.authority Sample.ticket Sample.buyer⟩ Sample.drawn).result = .ok () := by
  have ready : Client.SettleReady Sample.drawn Sample.lottery Sample.drawnLottery Sample.ticket
      ⟨Sample.lottery, Sample.buyer, 0, 40⟩ Sample.prizeAccount := {
    recorded := by decide +kernel
    serves := ⟨by decide +kernel, by decide +kernel, by decide +kernel, by decide +kernel,
      ⟨0⟩, by decide +kernel⟩
    ticket := by decide +kernel
    foreign := by decide +kernel
    prize_eq := by decide +kernel
    prize := .inl ⟨by decide +kernel, by decide +kernel, by decide +kernel⟩
    affords := ⟨by decide +kernel, by decide +kernel, by decide +kernel⟩ }
  refine ⟨Sample.unclaimed, ready, ?_⟩
  rw [← Sample.through_drawing] at ready
  have answered : (Step.run ⟨61, _⟩ _).result = _ :=
    prepared_call_answered Sample.unclaimed _ (.settle ready)
  rw [Sample.through_drawing] at answered
  refine Eq.trans answered ?_
  decide +kernel

/-- A lottery account may be new and still not be free: at the address of the fee account the opening
puts the fee account first, and then finds no room for the record. -/
theorem launch_at_fee_account_refused :
    Sample.book.Unclaimed ∧
      Client.LaunchReady Sample.book Sample.feeAccount Sample.authority Sample.feeCustody
        Sample.feeVault Sample.feeAccount Sample.mint ∧
      Sample.feeAccount ≠ Sample.authority ∧
      Step.answer (Lottery.launch Sample.authority Sample.feeVault Sample.feeAccount Sample.mint 100 50
        20) = .ok () ∧
      (Step.run ⟨20, Client.launch Known.lotteryProgram Sample.feeAccount Sample.authority Sample.mint
        100 50⟩ Sample.book).result = .error (.on .lottery (.refusal .alreadyInitialized)) := by
  refine ⟨Sample.unclaimed, ?_, by decide, by decide +kernel, by decide +kernel⟩
  exact {
    serves := ⟨by decide +kernel, by decide +kernel, by decide +kernel, by decide +kernel,
      ⟨0⟩, by decide +kernel⟩
    fresh := ⟨by decide +kernel, by decide +kernel, by decide +kernel⟩
    custody_eq := by decide +kernel
    vault_eq := by decide +kernel
    vault_available := .inl ⟨by decide +kernel, by decide +kernel, by decide +kernel⟩
    feeAccount_eq := by decide +kernel
    feeAccount_available := .inl ⟨by decide +kernel, by decide +kernel, by decide +kernel⟩
    affords := ⟨by decide +kernel, by decide +kernel, by decide +kernel⟩ }

end RangeLottery
