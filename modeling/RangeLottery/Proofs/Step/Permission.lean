import RangeLottery.Proofs.Run.Moment
import RangeLottery.Proofs.Step.Deed

/-!
What a step may do, and who has to sign for it. A granted request carries the signatures that its
records name; it changes only accounts that were handed over as writable; tokens leave an account only
when its wallet signed a purchase or when a drawn lottery pays out of its vault; and an account of the
lottery program stays one, with its data unless it is the lottery or the new ticket of the step.
Nothing is assumed of the book, and an account may be named in several parts with different flags.
-/

namespace RangeLottery

namespace Step

/-- The step names `key` at `place`. -/
def Names (s : Step) (place : Nat) (key : Key) : Prop :=
  s.call.accounts[place]?.map Entry.key = some key

/-- The step has the signature of `key` at `place`. -/
def SignedAt (s : Step) (place : Nat) (key : Key) : Prop :=
  ∃ e, s.call.accounts[place]? = some e ∧ e.key = key ∧ e.signer = true

/-- Some entry of the step hands `key` over as writable. -/
def HandsOver (s : Step) (key : Key) : Prop :=
  ∃ e ∈ s.call.accounts, e.key = key ∧ e.writable = true

/-- The signatures of a granted request: those of the accounts that it creates, and those of the
authority or the buyer in the record. -/
def Authorized (s : Step) (b c : Book) : Request → Prop
  | .launch _ _ => ∃ id l, s.SignedAt 0 id ∧ (b.account id).data = [] ∧
      (c.account id).lottery? = some l ∧ s.SignedAt 1 l.authority
  | .buy _ => ∃ id t, s.SignedAt 1 id ∧ (b.account id).data = [] ∧
      (c.account id).ticket? = some t ∧ s.SignedAt 2 t.buyer
  | .draw => ∃ caller, s.SignedAt 1 caller
  | .settle | .void => ∃ id l, s.Names 0 id ∧ (b.account id).lottery? = some l ∧
      s.SignedAt 1 l.authority

/-- When a request may leave `left` of the `tokens` of the account at `key`. -/
def MayDebit (s : Step) (b : Book) (key : Key) (tokens : TokenAccount) (left : UInt64) :
    Request → Prop
  | .buy amount => s.Names 4 key ∧ s.SignedAt 2 tokens.owner ∧
      tokens.amount.toNat ≤ left.toNat + amount.toNat
  | .settle => ∃ id l, s.Names 0 id ∧ (b.account id).lottery? = some l ∧ l.kind = .drawn ∧
      s.Names 3 key ∧ key = Address.associated (Address.custody id).address l.mint
  | .launch _ _ | .draw | .void => False

/-- When a request may write the data of an account of the lottery program. -/
def MayWrite (s : Step) (b : Book) (key : Key) : Request → Prop
  | .launch _ _ => s.Names 0 key ∧ (b.account key).data = []
  | .buy _ => s.Names 0 key ∧ (b.account key).lottery?.isSome ∨
      s.Names 1 key ∧ (b.account key).data = []
  | .draw | .settle | .void => s.Names 0 key ∧ (b.account key).lottery?.isSome

/-- When a request may change the lamports of an account of the lottery program: the new record
receives them, and who pays for a new account spends them. -/
def MayCharge (s : Step) (key : Key) : Request → Prop
  | .launch _ _ => s.Names 0 key ∨ s.Names 1 key
  | .buy _ => s.Names 1 key ∨ s.Names 2 key
  | .settle => s.Names 1 key
  | .draw | .void => False

/-- What becomes of an account that the lottery program owned before the step. -/
structure KeepsOwned (s : Step) (b c : Book) (request : Request) (key : Key) : Prop where
  owner : (c.account key).owner = Known.lotteryProgram
  length : (b.account key).data ≠ [] →
    (c.account key).data.length = (b.account key).data.length
  data : (c.account key).data = (b.account key).data ∨ s.MayWrite b key request
  lamports : (c.account key).lamports = (b.account key).lamports ∨ s.MayCharge key request

/-- The step turned `b` into `c` on `request`, and all that it did was permitted. -/
structure Permitted (s : Step) (b c : Book) (request : Request) : Prop where
  requested : Request.decode? s.call.data = some request
  authorized : s.Authorized b c request
  debits : ∀ key tokens, (b.account key).tokens? = some tokens → ∃ left,
    (c.account key).tokens? = some { tokens with amount := left } ∧
      (left < tokens.amount → s.MayDebit b key tokens left request)
  handed : ∀ key, c.account key ≠ b.account key → s.HandsOver key
  owned : ∀ key, (b.account key).owner = Known.lotteryProgram → s.KeepsOwned b c request key

variable {s : Step} {b c : Book} {place : Nat} {e : Entry} {key : Key} {request : Request}
  {rewritten charged : List Key}

theorem names_of_listed (listed : s.call.accounts[place]? = some e) : s.Names place e.key := by
  rw [Names, listed, Option.map_some]

theorem handsOver_of_listed (listed : s.call.accounts[place]? = some e)
    (writable : e.writable = true) : s.HandsOver e.key :=
  ⟨e, List.mem_of_getElem? listed, rfl, writable⟩

/-- What the books differ in was handed over, if all that they may differ in was. -/
theorem handsOver_of_confined (confined : b.Confined c rewritten charged)
    (handed : ∀ key ∈ rewritten ++ charged, s.HandsOver key) (key : Key)
    (changed : c.account key ≠ b.account key) : s.HandsOver key := by
  by_cases listed : key ∈ rewritten ++ charged
  · exact handed key listed
  · rw [List.mem_append, not_or] at listed
    exact absurd (confined.account_eq listed.1 listed.2) changed

/-- An account of the lottery program is kept if it is where it may differ. -/
theorem keepsOwned_of_confined (evolves : b.Evolves c)
    (confined : b.Confined c rewritten charged)
    (owned : (b.account key).owner = Known.lotteryProgram)
    (written : key ∈ rewritten →
      (c.account key).owner = Known.lotteryProgram ∧ s.MayWrite b key request)
    (paid : key ∈ charged → s.MayCharge key request) : s.KeepsOwned b c request key := by
  constructor
  · by_cases mem : key ∈ rewritten
    · exact (written mem).1
    · rw [(confined.holding key mem).owner, owned]
  · exact evolves.length key
  · by_cases mem : key ∈ rewritten
    · exact .inr (written mem).2
    · exact .inl (confined.holding key mem).data
  · by_cases mem : key ∈ charged
    · exact .inr (paid mem)
    · exact .inl (confined.lamports key mem)

/-- A debit of a token account is a debit of the balance of its account. -/
theorem debits_of_balance (keeps : b.KeepsWallets c)
    (debit : ∀ key tokens left, (b.account key).tokens? = some tokens →
      (c.account key).balance = left.toNat → (c.account key).balance < (b.account key).balance →
        s.MayDebit b key tokens left request)
    (key : Key) (tokens : TokenAccount) (held : (b.account key).tokens? = some tokens) :
    ∃ left, (c.account key).tokens? = some { tokens with amount := left } ∧
      (left < tokens.amount → s.MayDebit b key tokens left request) := by
  obtain ⟨left, after⟩ := keeps key tokens held
  refine ⟨left, after, ?_⟩
  intro less
  apply debit key tokens left held (Account.balance_of_tokens? after)
  rw [Account.balance_of_tokens? after, Account.balance_of_tokens? held]
  exact UInt64.lt_iff_toNat_lt.mp less

/-- A token account is no account of the lottery program. -/
theorem unowned_of_tokens? {tokens : TokenAccount} (held : (b.account key).tokens? = some tokens) :
    (b.account key).owner ≠ Known.lotteryProgram := by
  intro owned
  rw [Account.tokens?_eq_none_of_owner owned] at held
  cases held

end Step

/-! ### The five requests -/

section Requests

variable {s : Step} {b c : Book} {l l' : Lottery}

open Step

theorem Opening.Effect.permitted {capacity deadline : UInt64} {a : Opening.Accounts}
    (requested : Request.decode? s.call.data = some (.launch capacity deadline))
    (effect : Opening.Effect s.slot capacity deadline s.call.accounts a l b c) :
    s.Permitted b c (.launch capacity deadline) := by
  have lottery := names_of_listed effect.loaded.lottery
  have authority := names_of_listed effect.loaded.authority
  have recorded : (c.account a.lottery.key).lottery? = some l := by
    rw [effect.lotteries, if_pos rfl]
  constructor
  · exact requested
  · refine ⟨a.lottery.key, l, ⟨a.lottery, effect.loaded.lottery, rfl, effect.loaded.lottery_signs⟩,
      effect.checked.lottery_vacant, recorded, a.authority, effect.loaded.authority, ?_,
      effect.loaded.authority_signs⟩
    obtain ⟨-, -, rfl⟩ := Lottery.launch_eq_ok_iff.mp effect.granted
    rfl
  · apply debits_of_balance effect.evolves.tokens
    intro key tokens left _ _ less
    rw [effect.balance] at less
    exact absurd less (Nat.lt_irrefl _)
  · apply handsOver_of_confined effect.confined
    intro key mem
    simp only [List.mem_append, List.mem_cons, List.not_mem_nil, or_false] at mem
    rcases mem with (rfl | rfl | rfl) | rfl | rfl | rfl | rfl
    · exact handsOver_of_listed effect.loaded.lottery effect.checked.lottery_writable
    · exact handsOver_of_listed effect.loaded.vault effect.vault_writable
    · exact handsOver_of_listed effect.loaded.feeAccount effect.feeAccount_writable
    · exact handsOver_of_listed effect.loaded.authority effect.checked.authority_writable
    · exact handsOver_of_listed effect.loaded.lottery effect.checked.lottery_writable
    · exact handsOver_of_listed effect.loaded.vault effect.vault_writable
    · exact handsOver_of_listed effect.loaded.feeAccount effect.feeAccount_writable
  · intro key owned
    apply keepsOwned_of_confined effect.evolves effect.confined owned
    · intro mem
      simp only [List.mem_cons, List.not_mem_nil, or_false] at mem
      rcases mem with rfl | rfl | rfl
      · exact ⟨(Account.lottery?_eq_some_iff.mp recorded).1, lottery, effect.checked.lottery_vacant⟩
      · exact absurd owned effect.vault_foreign
      · exact absurd owned effect.feeAccount_foreign
    · intro mem
      simp only [List.mem_cons, List.not_mem_nil, or_false] at mem
      rcases mem with rfl | rfl | rfl | rfl
      · exact .inr authority
      · exact .inl lottery
      · exact absurd owned effect.vault_foreign
      · exact absurd owned effect.feeAccount_foreign

theorem Purchase.Effect.permitted {amount : UInt64} {a : Purchase.Accounts} {t : Ticket}
    (requested : Request.decode? s.call.data = some (.buy amount))
    (effect : Purchase.Effect s.slot amount s.call.accounts a l l' t b c) :
    s.Permitted b c (.buy amount) := by
  have lottery := names_of_listed effect.loaded.lottery
  have ticket := names_of_listed effect.loaded.ticket
  have buyer := names_of_listed effect.loaded.buyer
  have purse := names_of_listed effect.loaded.purse
  have recorded : (c.account a.lottery.key).lottery? = some l' := by
    rw [effect.lotteries, if_pos rfl]
  have bought : (c.account a.ticket.key).ticket? = some t := by
    rw [effect.tickets, if_pos rfl]
  obtain ⟨_, vault_held⟩ := effect.loaded.vault_held
  constructor
  · exact requested
  · refine ⟨a.ticket.key, t, ⟨a.ticket, effect.loaded.ticket, rfl, effect.loaded.ticket_signs⟩,
      effect.checked.ticket_vacant, bought, a.buyer, effect.loaded.buyer, ?_,
      effect.loaded.buyer_signs⟩
    obtain ⟨-, -, -, -, -, issued, -⟩ := Lottery.issue_eq_ok_iff.mp effect.granted
    rw [issued]
  · apply debits_of_balance effect.evolves.tokens
    intro key tokens left held after less
    have moved := effect.balance key
    have here : key = a.purse.key := by
      by_contra apart
      rw [if_neg apart] at moved
      omega
    rw [here, effect.loaded.purse_held] at held
    cases held
    refine ⟨here ▸ purse, ⟨a.buyer, effect.loaded.buyer, effect.checked.purse_owner.symm,
      effect.loaded.buyer_signs⟩, ?_⟩
    rw [if_pos here, after, here, Account.balance_of_tokens? effect.loaded.purse_held] at moved
    omega
  · apply handsOver_of_confined effect.confined
    intro key mem
    simp only [List.mem_append, List.mem_cons, List.not_mem_nil, or_false] at mem
    rcases mem with (rfl | rfl | rfl | rfl) | rfl | rfl
    · exact handsOver_of_listed effect.loaded.lottery effect.checked.lottery_writable
    · exact handsOver_of_listed effect.loaded.ticket effect.checked.ticket_writable
    · exact handsOver_of_listed effect.loaded.purse effect.checked.purse_writable
    · exact handsOver_of_listed effect.loaded.vault effect.checked.vault_writable
    · exact handsOver_of_listed effect.loaded.buyer effect.checked.buyer_writable
    · exact handsOver_of_listed effect.loaded.ticket effect.checked.ticket_writable
  · intro key owned
    apply keepsOwned_of_confined effect.evolves effect.confined owned
    · intro mem
      simp only [List.mem_cons, List.not_mem_nil, or_false] at mem
      rcases mem with rfl | rfl | rfl | rfl
      · refine ⟨(Account.lottery?_eq_some_iff.mp recorded).1, .inl ⟨lottery, ?_⟩⟩
        rw [effect.before, Option.isSome_some]
      · exact ⟨(Account.ticket?_eq_some_iff.mp bought).1,
          .inr ⟨ticket, effect.checked.ticket_vacant⟩⟩
      · exact absurd owned (unowned_of_tokens? effect.loaded.purse_held)
      · exact absurd owned (unowned_of_tokens? vault_held)
    · intro mem
      simp only [List.mem_cons, List.not_mem_nil, or_false] at mem
      rcases mem with rfl | rfl
      · exact .inr buyer
      · exact .inl ticket

/-- A request that only rewrites the record of a lottery. -/
theorem Book.Rewritten.permitted {request : Request} {lottery : Entry}
    (requested : Request.decode? s.call.data = some request)
    (rewritten : b.Rewritten c lottery.key l l')
    (authorized : s.Authorized b c request) (listed : s.call.accounts[0]? = some lottery)
    (writable : lottery.writable = true)
    (mayWrite : s.Names 0 lottery.key → (b.account lottery.key).lottery?.isSome →
      s.MayWrite b lottery.key request) : s.Permitted b c request := by
  have recorded : (c.account lottery.key).lottery? = some l' := by
    rw [rewritten.lotteries, if_pos rfl]
  constructor
  · exact requested
  · exact authorized
  · apply debits_of_balance rewritten.evolves.tokens
    intro key tokens left _ _ less
    rw [rewritten.balance] at less
    exact absurd less (Nat.lt_irrefl _)
  · apply handsOver_of_confined rewritten.confined
    intro key mem
    rw [List.append_nil, List.mem_singleton] at mem
    rw [mem]
    exact handsOver_of_listed listed writable
  · intro key owned
    apply keepsOwned_of_confined rewritten.evolves rewritten.confined owned
    · intro mem
      rw [List.mem_singleton.mp mem]
      refine ⟨(Account.lottery?_eq_some_iff.mp recorded).1, mayWrite (names_of_listed listed) ?_⟩
      rw [rewritten.before, Option.isSome_some]
    · intro mem
      cases mem

theorem Drawing.Effect.permitted {a : Drawing.Accounts} {sample : SlotHash}
    (requested : Request.decode? s.call.data = some .draw)
    (effect : Drawing.Effect s.slot s.call.accounts a l l' sample b c) :
    s.Permitted b c .draw := by
  obtain ⟨lottery, caller, signs, -⟩ := Drawing.load_eq_ok_iff.mp effect.loaded
  refine effect.rewritten.permitted requested ?_ lottery effect.writable fun named recorded =>
    ⟨named, recorded⟩
  exact ⟨a.caller.key, a.caller, caller, rfl, signs⟩

theorem Voiding.Effect.permitted {a : Voiding.Accounts}
    (requested : Request.decode? s.call.data = some .void)
    (effect : Voiding.Effect s.slot s.call.accounts a l l' b c) : s.Permitted b c .void := by
  obtain ⟨lottery, authority, signs⟩ := Voiding.load_eq_ok_iff.mp effect.loaded
  refine effect.rewritten.permitted requested ?_ lottery effect.writable fun named recorded =>
    ⟨named, recorded⟩
  exact ⟨a.lottery.key, l, names_of_listed lottery, effect.rewritten.before, a.authority, authority,
    effect.authorized, signs⟩

theorem Settlement.Effect.permitted {a : Settlement.Accounts} {t : Ticket} {payout : Payout}
    (requested : Request.decode? s.call.data = some .settle)
    (effect : Settlement.Effect s.call.accounts a l l' t payout b c) : s.Permitted b c .settle := by
  have lottery := names_of_listed effect.loaded.lottery
  have authority := names_of_listed effect.loaded.authority
  have vault := names_of_listed effect.loaded.vault
  have recorded : (c.account a.lottery.key).lottery? = some l' := by
    rw [effect.lotteries, if_pos rfl]
  constructor
  · exact requested
  · exact ⟨a.lottery.key, l, lottery, effect.granted.before, a.authority, effect.loaded.authority,
      effect.granted.authorized, effect.loaded.authority_signs⟩
  · apply debits_of_balance effect.evolves.tokens
    intro key tokens left _ _ less
    have moved := effect.balance key
    have here : key = a.vault.key := by
      by_contra apart
      rw [if_neg apart] at moved
      omega
    have drawn := (Lottery.settle_eq_ok_iff.mp effect.granted.settled).1
    refine ⟨a.lottery.key, l, lottery, effect.granted.before, drawn, here ▸ vault, ?_⟩
    rw [here, effect.checked.vault_address, effect.checked.custody, effect.granted.mint]
  · apply handsOver_of_confined effect.confined
    intro key mem
    simp only [List.mem_append, List.mem_cons, List.not_mem_nil, or_false] at mem
    rcases mem with (rfl | rfl | rfl | rfl) | rfl | rfl
    · exact handsOver_of_listed effect.loaded.lottery effect.checked.lottery_writable
    · exact handsOver_of_listed effect.loaded.vault effect.checked.vault_writable
    · exact handsOver_of_listed effect.loaded.prizeAccount effect.prize_writable
    · exact handsOver_of_listed effect.loaded.feeAccount effect.checked.feeAccount_writable
    · exact handsOver_of_listed effect.loaded.authority effect.checked.authority_writable
    · exact handsOver_of_listed effect.loaded.prizeAccount effect.prize_writable
  · intro key owned
    apply keepsOwned_of_confined effect.evolves effect.confined owned
    · intro mem
      simp only [List.mem_cons, List.not_mem_nil, or_false] at mem
      rcases mem with rfl | rfl | rfl | rfl
      · refine ⟨(Account.lottery?_eq_some_iff.mp recorded).1, lottery, ?_⟩
        rw [effect.granted.before, Option.isSome_some]
      · exact absurd owned (unowned_of_tokens? effect.loaded.vault_held)
      · exact absurd owned effect.prize_foreign
      · exact absurd owned (unowned_of_tokens? effect.loaded.feeAccount_held)
    · intro mem
      simp only [List.mem_cons, List.not_mem_nil, or_false] at mem
      rcases mem with rfl | rfl
      · exact authority
      · exact absurd owned effect.prize_foreign

end Requests

/-- Whatever the book, the accounts and the data of the call are, a step that succeeds did a request
that its signers permit, and changed only what that request may change. -/
theorem step_permitted {s : Step} {b : Book} (done : (s.run b).result = .ok ()) :
    ∃ request, s.Permitted b (s.run b).book request := by
  obtain ⟨event, -, deed⟩ := Step.deed_of_ok done
  cases deed with
  | opening requested effect => exact ⟨_, effect.permitted requested⟩
  | purchase requested effect => exact ⟨_, effect.permitted requested⟩
  | drawing requested effect => exact ⟨_, effect.permitted requested⟩
  | settlement requested effect _ => exact ⟨_, effect.permitted requested⟩
  | voiding requested effect => exact ⟨_, effect.permitted requested⟩

/-- The buyer of the sample lottery signed the purchase, and so forty tokens may leave the purse. -/
theorem purchase_permitted :
    (Sample.purchase.step.run Sample.opened).result = .ok () ∧
      Sample.purchase.step.Permitted Sample.opened Sample.purchased (.buy 40) ∧
      Sample.purchase.step.MayDebit Sample.opened Sample.purse ⟨Sample.mint, Sample.buyer, 100⟩ 60
        (.buy 40) := by
  have done : (Sample.purchase.step.run Sample.opened).result = .ok () := Sample.purchase_done.1
  obtain ⟨request, permitted⟩ := step_permitted done
  rw [show (Sample.purchase.step.run Sample.opened).book = Sample.purchased from
    Sample.purchase_done.2] at permitted
  have requested : Request.decode? Sample.purchase.step.call.data = some (.buy 40) := by
    decide +kernel
  rw [permitted.requested] at requested
  cases requested
  refine ⟨done, permitted, ?_⟩
  have before : (Sample.opened.account Sample.purse).tokens? =
      some ⟨Sample.mint, Sample.buyer, 100⟩ := by
    decide +kernel
  have after : (Sample.purchased.account Sample.purse).tokens? =
      some ⟨Sample.mint, Sample.buyer, 60⟩ := by
    decide +kernel
  obtain ⟨left, held, debit⟩ := permitted.debits _ _ before
  rw [after] at held
  cases held
  exact debit (by decide)

end RangeLottery
