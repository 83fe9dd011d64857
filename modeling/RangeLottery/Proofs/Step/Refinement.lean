import RangeLottery.Proofs.Step.Permission

/-!
Steps carry out record operations. The bytes that a successful step leaves in its first account are the
written form of what the operation of its request makes of the record that was read from there: the
program around the operations adds nothing to a record and loses nothing of it, however the accounts of
the call coincide.
-/

namespace RangeLottery

/-- The lottery program owns the account at `key`, which holds `data`. -/
structure Book.Stores (b : Book) (key : Key) (data : Bytes) : Prop where
  owner : (b.account key).owner = Known.lotteryProgram
  data : (b.account key).data = data

/-- The lottery that is read at `key`. -/
def Book.Reads (b : Book) (key : Key) (l : Lottery) : Prop :=
  Lottery.decode (b.account key).data = .ok l

/-- How a step turns the data of the lottery at `id` in `b` into its data in `c`: the operation of the
request is granted on the record that is read, and what it leaves is stored. -/
inductive Step.Performs (s : Step) (b c : Book) (id : Key) : Request → Prop
  | launch {capacity deadline : UInt64} {authority vault feeAccount mint : Key} {l : Lottery}
      (authority_named : s.Names 1 authority) (vault_named : s.Names 4 vault)
      (feeAccount_named : s.Names 5 feeAccount) (mint_named : s.Names 6 mint)
      (vault_address : vault = Address.associated (Address.custody id).address mint)
      (feeAccount_address : feeAccount = Address.associated Known.feeCollector mint)
      (vacant : (b.account id).data = [])
      (granted : Lottery.launch authority vault feeAccount mint capacity deadline s.slot = .ok l)
      (stored : c.Stores id l.encode) : Performs s b c id (.launch capacity deadline)
  | buy {amount : UInt64} {ticket buyer : Key} {l l' : Lottery} {t : Ticket}
      (ticket_named : s.Names 1 ticket) (buyer_named : s.Names 2 buyer) (read : b.Reads id l)
      (granted : l.issue id buyer amount s.slot = (.ok t, l')) (stored : c.Stores id l'.encode)
      (vacant : (b.account ticket).data = []) (bought : c.Stores ticket t.encode)
      (width : (c.account ticket).data.length = 81) : Performs s b c id (.buy amount)
  | draw {l l' : Lottery} {sample : SlotHash} {number : UInt64} (read : b.Reads id l)
      (checkpoint : SlotHistory.checkpoint (b.account Known.slotHashes).data l.deadline = .ok sample)
      (granted : l.draw id sample s.slot = (.ok number, l')) (stored : c.Stores id l'.encode) :
      Performs s b c id .draw
  | settle {vault ticket : Key} {l l' : Lottery} {t : Ticket} {tokens : TokenAccount}
      {payout : Payout} (vault_named : s.Names 3 vault) (ticket_named : s.Names 6 ticket)
      (read : b.Reads id l) (ticket_read : Ticket.decode (b.account ticket).data = .ok t)
      (held : (b.account vault).tokens? = some tokens)
      (granted : l.settle id t tokens.amount = (.ok payout, l')) (stored : c.Stores id l'.encode) :
      Performs s b c id .settle
  | void {l l' : Lottery} (read : b.Reads id l) (granted : l.void s.slot = (.ok (), l'))
      (stored : c.Stores id l'.encode) : Performs s b c id .void

section Requests

variable {s : Step} {b c : Book} {key : Key} {l l' : Lottery} {t : Ticket}

open Step

namespace Book

theorem reads_of_lottery? (recorded : (b.account key).lottery? = some l) : b.Reads key l := by
  obtain ⟨-, storable, stored⟩ := Account.lottery?_eq_some_iff.mp recorded
  rw [Reads, stored, Lottery.decode, Lottery.decode?_encode storable]
  rfl

theorem stores_of_lottery? (recorded : (b.account key).lottery? = some l) :
    b.Stores key l.encode := by
  obtain ⟨owned, -, stored⟩ := Account.lottery?_eq_some_iff.mp recorded
  exact ⟨owned, stored⟩

theorem stores_of_ticket? (recorded : (b.account key).ticket? = some t) :
    b.Stores key t.encode := by
  obtain ⟨owned, -, stored⟩ := Account.ticket?_eq_some_iff.mp recorded
  exact ⟨owned, stored⟩

theorem decode_ticket_of_ticket? (recorded : (b.account key).ticket? = some t) :
    Ticket.decode (b.account key).data = .ok t := by
  obtain ⟨-, nonempty, stored⟩ := Account.ticket?_eq_some_iff.mp recorded
  rw [stored, Ticket.decode, Ticket.decode?_encode nonempty]
  rfl

/-- The record behind a step that wrote the lottery at `key`. -/
theorem stores_of_lotteries
    (lotteries : ∀ other, (c.account other).lottery? =
      if other = key then some l else (b.account other).lottery?) : c.Stores key l.encode := by
  apply stores_of_lottery?
  rw [lotteries, if_pos rfl]

end Book

/-! ### The five requests -/

theorem Opening.Effect.performs {capacity deadline : UInt64} {a : Opening.Accounts}
    (effect : Opening.Effect s.slot capacity deadline s.call.accounts a l b c) :
    s.Performs b c a.lottery.key (.launch capacity deadline) := by
  apply Performs.launch
  case authority_named => exact names_of_listed effect.loaded.authority
  case vault_named => exact names_of_listed effect.loaded.vault
  case feeAccount_named => exact names_of_listed effect.loaded.feeAccount
  case mint_named => exact names_of_listed effect.loaded.mint
  case vault_address => rw [effect.vault_address, effect.checked.custody]
  case feeAccount_address => rw [effect.feeAccount_address, effect.checked.feeCollector]
  case vacant => exact effect.checked.lottery_vacant
  case granted => exact effect.granted
  case stored => exact Book.stores_of_lotteries effect.lotteries

theorem Purchase.Effect.performs {amount : UInt64} {a : Purchase.Accounts}
    (effect : Purchase.Effect s.slot amount s.call.accounts a l l' t b c) :
    s.Performs b c a.lottery.key (.buy amount) := by
  have bought : c.Stores a.ticket.key t.encode := by
    apply Book.stores_of_ticket?
    rw [effect.tickets, if_pos rfl]
  apply Performs.buy
  case ticket_named => exact names_of_listed effect.loaded.ticket
  case buyer_named => exact names_of_listed effect.loaded.buyer
  case read => exact Book.reads_of_lottery? effect.before
  case granted => exact effect.granted
  case stored => exact Book.stores_of_lotteries effect.lotteries
  case vacant => exact effect.checked.ticket_vacant
  case bought => exact bought
  case width =>
    rw [bought.data, Ticket.length_encode]
    rfl

theorem Drawing.Effect.performs {a : Drawing.Accounts} {sample : SlotHash}
    (effect : Drawing.Effect s.slot s.call.accounts a l l' sample b c) :
    s.Performs b c a.lottery.key .draw := by
  apply Performs.draw
  case read => exact Book.reads_of_lottery? effect.rewritten.before
  case checkpoint => exact effect.checkpoint
  case granted => exact effect.granted
  case stored => exact Book.stores_of_lotteries effect.rewritten.lotteries

theorem Settlement.Effect.performs {a : Settlement.Accounts} {payout : Payout}
    (effect : Settlement.Effect s.call.accounts a l l' t payout b c) :
    s.Performs b c a.lottery.key .settle := by
  apply Performs.settle
  case vault_named => exact names_of_listed effect.loaded.vault
  case ticket_named => exact names_of_listed effect.loaded.ticket
  case read => exact Book.reads_of_lottery? effect.granted.before
  case ticket_read => exact Book.decode_ticket_of_ticket? effect.granted.ticket
  case held => exact effect.loaded.vault_held
  case granted => exact effect.granted.settled
  case stored => exact Book.stores_of_lotteries effect.lotteries

theorem Voiding.Effect.performs {a : Voiding.Accounts}
    (effect : Voiding.Effect s.slot s.call.accounts a l l' b c) :
    s.Performs b c a.lottery.key .void := by
  apply Performs.void
  case read => exact Book.reads_of_lottery? effect.rewritten.before
  case granted => exact effect.granted
  case stored => exact Book.stores_of_lotteries effect.rewritten.lotteries

end Requests

/-- A step that succeeds carries out the record operation of its request on the lottery of its first
account, whatever the book and the accounts of the call are. -/
theorem step_performs_operation {s : Step} {b : Book} (done : (s.run b).result = .ok ()) :
    ∃ request id, Request.decode? s.call.data = some request ∧ s.Names 0 id ∧
      s.Performs b (s.run b).book id request := by
  obtain ⟨event, -, deed⟩ := Step.deed_of_ok done
  cases deed with
  | opening requested effect =>
    exact ⟨_, _, requested, Step.names_of_listed effect.loaded.lottery, effect.performs⟩
  | purchase requested effect =>
    exact ⟨_, _, requested, Step.names_of_listed effect.loaded.lottery, effect.performs⟩
  | drawing requested effect =>
    obtain ⟨lottery, -⟩ := Drawing.load_eq_ok_iff.mp effect.loaded
    exact ⟨_, _, requested, Step.names_of_listed lottery, effect.performs⟩
  | settlement requested effect _ =>
    exact ⟨_, _, requested, Step.names_of_listed effect.loaded.lottery, effect.performs⟩
  | voiding requested effect =>
    obtain ⟨lottery, -⟩ := Voiding.load_eq_ok_iff.mp effect.loaded
    exact ⟨_, _, requested, Step.names_of_listed lottery, effect.performs⟩

/-- The draw of the sample lottery stores the record with the number drawn. -/
theorem drawing_performs_operation :
    (Sample.drawing.step.run (Sample.drawing.book Sample.purchased)).result = .ok () ∧
      Sample.drawing.step.Performs (Sample.drawing.book Sample.purchased) Sample.drawn
        Sample.lottery .draw := by
  have done : (Sample.drawing.step.run (Sample.drawing.book Sample.purchased)).result = .ok () :=
    Sample.drawing_done.1
  obtain ⟨request, id, requested, named, performs⟩ := step_performs_operation done
  rw [show (Sample.drawing.step.run (Sample.drawing.book Sample.purchased)).book = Sample.drawn from
    Sample.drawing_done.2] at performs
  have sampled : Request.decode? Sample.drawing.step.call.data = some .draw := by
    decide +kernel
  rw [requested] at sampled
  cases sampled
  have first : Sample.drawing.step.Names 0 Sample.lottery := rfl
  rw [Step.Names, named] at first
  cases first
  exact ⟨done, performs⟩

end RangeLottery
