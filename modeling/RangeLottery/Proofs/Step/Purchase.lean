import RangeLottery.Proofs.Step.Record
import RangeLottery.Step.Purchase

/-!
What a granted purchase does: the record counts the numbers sold, the empty ticket account becomes the
ticket of the purchase, and the amount moves from the purse of the buyer to the vault. The lottery, the
ticket, the purse and the vault are apart from one another, but for a purse that is the vault.
-/

namespace RangeLottery

namespace Purchase

open Session

variable {slot amount : UInt64} {entries : List Entry} {a : Accounts} {b c : Book}
  {p q : Progress} {u : Unit}

/-- The accounts of a purchase, as they are listed and found. -/
structure Loaded (b : Book) (entries : List Entry) (a : Accounts) : Prop where
  lottery : entries[0]? = some a.lottery
  ticket : entries[1]? = some a.ticket
  ticket_signs : a.ticket.signer = true
  buyer : entries[2]? = some a.buyer
  buyer_signs : a.buyer.signer = true
  vault : entries[3]? = some a.vault
  vault_held : ∃ tokens, (b.account a.vault.key).tokens? = some tokens
  purse : entries[4]? = some a.purse
  purse_held : (b.account a.purse.key).tokens? = some a.purseTokens
  mint : entries[5]? = some a.mint
  mint_owned : (b.account a.mint.key).owner = Known.tokenProgram
  mint_decoded : Mint.decode (b.account a.mint.key).data = .ok ⟨a.decimals⟩
  tokenProgram : ∃ e, entries[6]? = some e ∧ e.key = Known.tokenProgram ∧
    (b.account e.key).executable = true
  systemProgram : ∃ e, entries[7]? = some e ∧ e.key = Known.systemProgram ∧
    (b.account e.key).executable = true

theorem load_eq_ok_iff : load b entries = .ok a ↔ Loaded b entries a := by
  obtain ⟨lottery, ticket, buyer, vault, purse, purseTokens, mint, decimals⟩ := a
  simp only [load, Except.bind_eq_ok_iff, Check.entry_eq_ok_iff, Check.signer_eq_ok_iff,
    Check.tokenAccount_eq_ok_iff, Check.mint_eq_ok_iff, Check.program_eq_ok_iff, pure,
    Except.pure, Except.ok.injEq, Accounts.mk.injEq]
  constructor
  · rintro ⟨_, h0, _, ⟨h1, signs1⟩, _, ⟨h2, signs2⟩, _, h3, tokens, held3, _, h4, _, held4, _, h5,
      _, ⟨owned5, decoded5⟩, _, h6, _, h7, rfl, rfl, rfl, rfl, rfl, rfl, rfl, rfl⟩
    exact ⟨h0, h1, signs1, h2, signs2, h3, ⟨tokens, held3⟩, h4, held4, h5, owned5, decoded5, h6, h7⟩
  · rintro ⟨h0, h1, signs1, h2, signs2, h3, ⟨tokens, held3⟩, h4, held4, h5, owned5, decoded5, h6,
      h7⟩
    exact ⟨lottery, h0, ticket, ⟨h1, signs1⟩, buyer, ⟨h2, signs2⟩, vault, h3, tokens, held3, purse,
      h4, purseTokens, held4, mint, h5, ⟨decimals⟩, ⟨owned5, decoded5⟩, (), h6, (), h7, rfl, rfl,
      rfl, rfl, rfl, rfl, rfl, rfl⟩

/-- What is checked of the accounts of a purchase. -/
structure Checked (b : Book) (a : Accounts) : Prop where
  lottery_writable : a.lottery.writable = true
  lottery_owned : (b.account a.lottery.key).owner = Known.lotteryProgram
  ticket_writable : a.ticket.writable = true
  ticket_vacant : (b.account a.ticket.key).data = []
  buyer_writable : a.buyer.writable = true
  vault_writable : a.vault.writable = true
  purse_writable : a.purse.writable = true
  purse_mint : a.purseTokens.mint = a.mint.key
  purse_owner : a.purseTokens.owner = a.buyer.key

theorem check_eq_ok_iff : check b a = .ok u ↔ Checked b a := by
  simp only [check, Except.bind_eq_ok_iff, Check.writable_eq_ok_iff, Check.recorded_eq_ok_iff,
    Check.vacant_eq_ok_iff, Check.require_eq_ok_iff, decide_eq_true_eq]
  constructor
  · rintro ⟨_, h0, _, h1, _, h2, _, h3, _, h4, _, h5, _, h6, _, h7, h8⟩
    exact ⟨h0, h1, h2, h3, h4, h5, h6, h7, h8⟩
  · rintro ⟨h0, h1, h2, h3, h4, h5, h6, h7, h8⟩
    exact ⟨(), h0, (), h1, (), h2, (), h3, (), h4, (), h5, (), h6, (), h7, h8⟩

/-- A granted purchase of `amount` numbers of `l`, which are those of `t`. -/
structure Effect (slot amount : UInt64) (entries : List Entry) (a : Accounts) (l l' : Lottery)
    (t : Ticket) (b c : Book) : Prop where
  loaded : Loaded b entries a
  checked : Checked b a
  before : (b.account a.lottery.key).lottery? = some l
  vault : a.vault.key = l.vault
  mint : a.mint.key = l.mint
  granted : l.issue a.lottery.key a.buyer.key amount slot = (.ok t, l')
  enough : amount ≤ a.purseTokens.amount
  lotteries : ∀ key, (c.account key).lottery? =
    if key = a.lottery.key then some l' else (b.account key).lottery?
  tickets : ∀ key, (c.account key).ticket? =
    if key = a.ticket.key then some t else (b.account key).ticket?
  balance : b.Transferred c a.purse.key a.vault.key amount.toNat
  evolves : b.Evolves c
  confined : b.Confined c [a.lottery.key, a.ticket.key, a.purse.key, a.vault.key]
    [a.buyer.key, a.ticket.key]

/-- The books between the parts of a granted purchase. -/
structure Stages (a : Accounts) (l' : Lottery) (t : Ticket) (amount : UInt64)
    (b created paid c : Book) : Prop where
  allocated : b.Allocated created a.ticket.key (List.replicate Ticket.width 0) Known.lotteryProgram
  created_evolves : b.Evolves created
  created_confined : b.Confined created [a.ticket.key] [a.buyer.key, a.ticket.key]
  transferred : created.Transferred paid a.purse.key a.vault.key amount.toNat
  paid_evolves : created.Evolves paid
  paid_confined : created.Confined paid [a.purse.key, a.vault.key] []
  written : c = (paid.modify a.ticket.key fun x => { x with data := t.encode }).modify
    a.lottery.key fun x => { x with data := l'.encode }

/-- The books between the calls of a purchase and after both records are written. -/
theorem stages_of_calls {r s : Progress} {u' : Unit}
    (creating : runOn (createRecord a.buyer.key a.ticket.key Ticket.width) p = (.ok u, r))
    (paying : runOn (transfer a.purse.key a.mint.key a.vault.key a.buyer.key amount a.decimals []) r =
      (.ok u', s)) (loaded : Loaded p.book entries a) (l' : Lottery) (t : Ticket) :
    Stages a l' t amount p.book r.book s.book
        ((s.book.modify a.ticket.key fun x => { x with data := t.encode }).modify
          a.lottery.key fun x => { x with data := l'.encode }) ∧
      s.events = p.events := by
  obtain ⟨allocated, quiet⟩ := createRecord_spec creating
  have created_evolves := Book.evolves_of_allocate allocated
  obtain ⟨tokens, vault_held⟩ := loaded.vault_held
  obtain ⟨_, purse_held'⟩ := created_evolves.tokens _ _ loaded.purse_held
  obtain ⟨_, vault_held'⟩ := created_evolves.tokens _ _ vault_held
  obtain ⟨transferred, paid_evolves, paid_confined, quiet'⟩ :=
    transfer_spec paying purse_held' vault_held'
  exact ⟨⟨Book.allocated_of_allocate allocated, created_evolves,
    Book.confined_of_allocate allocated, transferred, paid_evolves, paid_confined, rfl⟩,
    quiet'.trans quiet⟩

theorem run_stages (done : runOn (run slot entries amount) p = (.ok u, q)) :
    ∃ a l l' t created paid, Loaded p.book entries a ∧ Checked p.book a ∧
      (p.book.account a.lottery.key).lottery? = some l ∧ a.vault.key = l.vault ∧
      a.mint.key = l.mint ∧ l.issue a.lottery.key a.buyer.key amount slot = (.ok t, l') ∧
      amount ≤ a.purseTokens.amount ∧ Stages a l' t amount p.book created paid q.book ∧
      q.events = p.events ++ [.bought a.lottery.key a.ticket.key a.buyer.key t.start t.stop t.size
        l'.sold] := by
  simp only [run, pass_bind_eq_ok_iff, book_bind_eq_ok_iff, readLottery_bind_eq_ok_iff,
    accept_bind_eq_ok_iff] at done
  obtain ⟨a, loaded, _, checked, l, decoded, _, vault, _, mint, t, issued, done⟩ := done
  have loaded := load_eq_ok_iff.mp loaded
  have checked := check_eq_ok_iff.mp checked
  split at done
  · simp [runOn_bind] at done
  rename_i enough
  simp only [remark_bind_eq_ok_iff] at done
  obtain ⟨_, r, creating, done⟩ := runOn_bind_eq_ok_iff.mp done
  obtain ⟨_, s, paying, done⟩ := runOn_bind_eq_ok_iff.mp done
  simp only [saveTicket_bind_eq_ok_iff, saveLottery_bind_eq_ok_iff, remark_bind_eq_ok_iff,
    runOn_announce, Prod.mk.injEq] at done
  obtain ⟨-, -, -, rfl⟩ := done
  obtain ⟨stages, quiet⟩ := stages_of_calls creating paying loaded
    (l.issue a.lottery.key a.buyer.key amount slot).2 t
  refine ⟨a, l, _, t, r.book, s.book, loaded, checked, ?_, Check.agrees_eq_ok_iff.mp vault,
    Check.agrees_eq_ok_iff.mp mint, Prod.ext issued rfl, UInt64.not_lt.mp enough, stages, ?_⟩
  · simpa [Account.lottery?, checked.lottery_owned] using decoded
  · simp only [quiet]

section Stages

variable {l l' : Lottery} {t : Ticket} {created paid : Book}

theorem Stages.evolves_paid (stages : Stages a l' t amount b created paid c) : b.Evolves paid :=
  stages.created_evolves.trans stages.paid_evolves

/-- The ticket account belongs to the lottery program when the ticket is written. -/
theorem Stages.ticket_owned (stages : Stages a l' t amount b created paid c) :
    (paid.account a.ticket.key).owner = Known.lotteryProgram ∧
      (paid.account a.ticket.key).data.length = Ticket.width := by
  have data := stages.allocated.data_after
  have present : (created.account a.ticket.key).data ≠ [] := by simp [data, Ticket.width]
  rw [stages.paid_evolves.owner _ present, stages.paid_evolves.length _ present, data]
  exact ⟨stages.allocated.owner_after, List.length_replicate⟩

theorem Stages.evolves (stages : Stages a l' t amount b created paid c)
    (before : (b.account a.lottery.key).lottery? = some l)
    (apart : a.lottery.key ≠ a.ticket.key) : b.Evolves c := by
  obtain ⟨ticketOwned, ticketLength⟩ := stages.ticket_owned
  obtain ⟨lotteryOwned, lotteryLength⟩ := stages.evolves_paid.lottery_owned before
  rw [stages.written]
  refine stages.evolves_paid.trans ((Book.evolves_record ticketOwned ?_).trans
    (Book.evolves_record ?_ ?_))
  · rw [ticketLength, Ticket.length_encode]
  · rw [Book.account_modify_of_ne apart, lotteryOwned]
  · rw [Book.account_modify_of_ne apart, lotteryLength, Lottery.length_encode]

theorem Stages.confined (stages : Stages a l' t amount b created paid c) :
    b.Confined c [a.lottery.key, a.ticket.key, a.purse.key, a.vault.key]
      [a.buyer.key, a.ticket.key] := by
  rw [stages.written]
  refine ((stages.created_confined.trans stages.paid_confined).trans
    ((Book.confined_write paid a.ticket.key _).trans
      (Book.confined_write _ a.lottery.key _))).mono ?_ ?_
  · intro key mem
    simp only [List.mem_append, List.mem_cons, List.not_mem_nil, or_false] at mem ⊢
    grind
  · intro key mem
    simpa using mem

/-- Only the payment moves tokens: creating and writing records does not. -/
theorem Stages.transferred_all (stages : Stages a l' t amount b created paid c)
    (before : (b.account a.lottery.key).lottery? = some l)
    (apart : a.lottery.key ≠ a.ticket.key) :
    b.Transferred c a.purse.key a.vault.key amount.toNat := by
  intro key
  have lotteryOwned : ((paid.modify a.ticket.key fun x =>
      { x with data := t.encode }).account a.lottery.key).owner = Known.lotteryProgram := by
    rw [Book.account_modify_of_ne apart]
    exact (stages.evolves_paid.lottery_owned before).1
  rw [stages.written, Book.balance_write lotteryOwned, Book.balance_write stages.ticket_owned.1,
    stages.transferred key,
    Book.balance_of_allocated stages.allocated stages.created_confined]

theorem effect_of_stages (loaded : Loaded b entries a) (checked : Checked b a)
    (before : (b.account a.lottery.key).lottery? = some l) (vault : a.vault.key = l.vault)
    (mint : a.mint.key = l.mint)
    (granted : l.issue a.lottery.key a.buyer.key amount slot = (.ok t, l'))
    (enough : amount ≤ a.purseTokens.amount) (stages : Stages a l' t amount b created paid c) :
    Effect slot amount entries a l l' t b c := by
  -- The lottery has data and the ticket account has none.
  have apart : a.lottery.key ≠ a.ticket.key := by
    intro same
    exact Account.data_ne_nil_of_lottery? before (same ▸ checked.ticket_vacant)
  have evolves := stages.evolves before apart
  have confined := stages.confined
  have lotteryAfter : (c.account a.lottery.key).lottery? = some l' := by
    rw [stages.written]
    refine Book.lottery?_write ?_ (Lottery.storable_of_issue granted)
    rw [Book.account_modify_of_ne apart]
    exact (stages.evolves_paid.lottery_owned before).1
  have ticketAfter : (c.account a.ticket.key).ticket? = some t := by
    rw [stages.written, Book.account_modify_of_ne apart.symm]
    exact Book.ticket?_write stages.ticket_owned.1 (Lottery.start_lt_stop_of_issue granted)
  obtain ⟨tokens, vaultHeld⟩ := loaded.vault_held
  have purseUnrecorded := evolves.unrecorded_of_tokens? loaded.purse_held
  have vaultUnrecorded := evolves.unrecorded_of_tokens? vaultHeld
  refine {
    loaded, checked, before, vault, mint, granted, enough, evolves, confined
    lotteries := Book.lottery?_eq_of_confined confined lotteryAfter ?_
    tickets := ?_
    balance := stages.transferred_all before apart }
  · intro key mem other
    simp only [List.mem_cons, List.not_mem_nil, or_false] at mem
    rcases mem with rfl | rfl | rfl | rfl
    · exact absurd rfl other
    · exact ⟨Account.lottery?_eq_none_of_vacant checked.ticket_vacant,
        Account.lottery?_eq_none_of_ticket? ticketAfter⟩
    · exact ⟨purseUnrecorded.lottery_before, purseUnrecorded.lottery_after⟩
    · exact ⟨vaultUnrecorded.lottery_before, vaultUnrecorded.lottery_after⟩
  · intro key
    split
    · rename_i here
      rw [here, ticketAfter]
    · rename_i other
      by_cases mem : key ∈ [a.lottery.key, a.ticket.key, a.purse.key, a.vault.key]
      · simp only [List.mem_cons, List.not_mem_nil, or_false] at mem
        rcases mem with rfl | rfl | rfl | rfl
        · rw [Account.ticket?_eq_none_of_lottery? before,
            Account.ticket?_eq_none_of_lottery? lotteryAfter]
        · exact absurd rfl other
        · rw [purseUnrecorded.ticket_before, purseUnrecorded.ticket_after]
        · rw [vaultUnrecorded.ticket_before, vaultUnrecorded.ticket_after]
      · exact (confined.holding key mem).ticket?_eq

end Stages

theorem run_spec (done : runOn (run slot entries amount) p = (.ok u, q)) :
    ∃ a l l' t, Effect slot amount entries a l l' t p.book q.book ∧
      q.events = p.events ++ [.bought a.lottery.key a.ticket.key a.buyer.key t.start t.stop t.size
        l'.sold] := by
  obtain ⟨a, l, l', t, created, paid, loaded, checked, before, vault, mint, granted, enough, stages,
    events⟩ := run_stages done
  exact ⟨a, l, l', t,
    effect_of_stages loaded checked before vault mint granted enough stages, events⟩

end Purchase

end RangeLottery
