import RangeLottery.Ledger.Book
import RangeLottery.Proofs.Ledger.Token
import RangeLottery.Record.Lottery

/-!
What an account holds. An account can be read as a lottery, as a ticket or as a token account, and at
most one of the readings succeeds: the owning program separates records from token accounts, and the
length of the data separates lotteries from tickets. The readings see the owner and the data of an
account and not its lamports.
-/

namespace RangeLottery

namespace Known

theorem lotteryProgram_ne_tokenProgram : lotteryProgram ≠ tokenProgram := by
  decide

theorem lotteryProgram_ne_systemProgram : lotteryProgram ≠ systemProgram := by
  decide

theorem tokenProgram_ne_systemProgram : tokenProgram ≠ systemProgram := by
  decide

end Known

theorem Ticket.decode?_encode_lottery (l : Lottery) : Ticket.decode? l.encode = none := by
  cases read : Ticket.decode? l.encode with
  | none => rfl
  | some t =>
    have same := congrArg List.length (Ticket.decode?_eq_some_iff.mp read).2
    simp [Lottery.width, Ticket.width] at same

theorem Lottery.decode?_encode_ticket (t : Ticket) : Lottery.decode? t.encode = none := by
  cases read : Lottery.decode? t.encode with
  | none => rfl
  | some l =>
    have same := congrArg List.length (Lottery.decode?_eq_some_iff.mp read).2
    simp [Lottery.width, Ticket.width] at same

namespace Account

variable {a b : Account} {l : Lottery} {t : Ticket} {tokens : TokenAccount}

/-- The lottery that the lottery program has recorded in the account. -/
def lottery? (a : Account) : Option Lottery :=
  if a.owner = Known.lotteryProgram then Lottery.decode? a.data else none

/-- The ticket that the lottery program has recorded in the account. -/
def ticket? (a : Account) : Option Ticket :=
  if a.owner = Known.lotteryProgram then Ticket.decode? a.data else none

/-- The initialized token account that the token program keeps in the account. -/
def tokens? (a : Account) : Option TokenAccount :=
  if a.owner = Known.tokenProgram then (TokenAccount.decode a.data).toOption else none

/-- How many tokens the account holds; an account that is no token account holds none. -/
def balance (a : Account) : Nat :=
  (a.tokens?.map fun tokens => tokens.amount.toNat).getD 0

theorem lottery?_eq_some_iff :
    a.lottery? = some l ↔
      a.owner = Known.lotteryProgram ∧ l.Storable ∧ a.data = l.encode := by
  simp [lottery?, Lottery.decode?_eq_some_iff]

theorem ticket?_eq_some_iff :
    a.ticket? = some t ↔
      a.owner = Known.lotteryProgram ∧ t.start < t.stop ∧ a.data = t.encode := by
  simp [ticket?, Ticket.decode?_eq_some_iff]

theorem tokens?_eq_some_iff :
    a.tokens? = some tokens ↔
      a.owner = Known.tokenProgram ∧ TokenAccount.decode a.data = .ok tokens := by
  unfold tokens?
  cases TokenAccount.decode a.data <;> simp [Except.toOption]

theorem balance_of_tokens? (held : a.tokens? = some tokens) :
    a.balance = tokens.amount.toNat := by
  simp [balance, held]

theorem balance_of_tokens?_eq_none (unheld : a.tokens? = none) : a.balance = 0 := by
  simp [balance, unheld]

/-! ### The readings exclude one another -/

theorem lottery?_eq_none_of_tokens? (held : a.tokens? = some tokens) : a.lottery? = none := by
  have owned := (tokens?_eq_some_iff.mp held).1
  simp [lottery?, owned, Known.lotteryProgram_ne_tokenProgram.symm]

theorem ticket?_eq_none_of_tokens? (held : a.tokens? = some tokens) : a.ticket? = none := by
  have owned := (tokens?_eq_some_iff.mp held).1
  simp [ticket?, owned, Known.lotteryProgram_ne_tokenProgram.symm]

theorem tokens?_eq_none_of_owner (owned : a.owner = Known.lotteryProgram) : a.tokens? = none := by
  simp [tokens?, owned, Known.lotteryProgram_ne_tokenProgram]

theorem tokens?_eq_none_of_lottery? (recorded : a.lottery? = some l) : a.tokens? = none :=
  tokens?_eq_none_of_owner (lottery?_eq_some_iff.mp recorded).1

theorem tokens?_eq_none_of_ticket? (recorded : a.ticket? = some t) : a.tokens? = none :=
  tokens?_eq_none_of_owner (ticket?_eq_some_iff.mp recorded).1

theorem ticket?_eq_none_of_lottery? (recorded : a.lottery? = some l) : a.ticket? = none := by
  have stored := (lottery?_eq_some_iff.mp recorded).2.2
  simp [ticket?, stored, Ticket.decode?_encode_lottery]

theorem lottery?_eq_none_of_ticket? (recorded : a.ticket? = some t) : a.lottery? = none := by
  have stored := (ticket?_eq_some_iff.mp recorded).2.2
  simp [lottery?, stored, Lottery.decode?_encode_ticket]

/-! ### Accounts with data -/

theorem data_ne_nil_of_lottery? (recorded : a.lottery? = some l) : a.data ≠ [] := by
  intro vacant
  have width := congrArg List.length (lottery?_eq_some_iff.mp recorded).2.2
  simp [vacant, Lottery.width] at width

theorem data_ne_nil_of_ticket? (recorded : a.ticket? = some t) : a.data ≠ [] := by
  intro vacant
  have width := congrArg List.length (ticket?_eq_some_iff.mp recorded).2.2
  simp [vacant, Ticket.width] at width

theorem data_ne_nil_of_tokens? (held : a.tokens? = some tokens) : a.data ≠ [] := by
  intro vacant
  have width := TokenAccount.length_of_decode (tokens?_eq_some_iff.mp held).2
  simp [vacant, TokenAccount.width] at width

theorem lottery?_eq_none_of_vacant (vacant : a.data = []) : a.lottery? = none := by
  cases read : a.lottery? with
  | none => rfl
  | some l => exact absurd vacant (data_ne_nil_of_lottery? read)

theorem ticket?_eq_none_of_vacant (vacant : a.data = []) : a.ticket? = none := by
  cases read : a.ticket? with
  | none => rfl
  | some t => exact absurd vacant (data_ne_nil_of_ticket? read)

theorem tokens?_eq_none_of_vacant (vacant : a.data = []) : a.tokens? = none := by
  cases read : a.tokens? with
  | none => rfl
  | some tokens => exact absurd vacant (data_ne_nil_of_tokens? read)

/-! ### Accounts that hold the same -/

/-- The two accounts are equal but for their lamports. -/
structure SameHolding (a b : Account) : Prop where
  owner : b.owner = a.owner
  data : b.data = a.data
  executable : b.executable = a.executable

namespace SameHolding

protected theorem refl (a : Account) : a.SameHolding a :=
  ⟨rfl, rfl, rfl⟩

protected theorem trans {c : Account} (first : a.SameHolding b) (second : b.SameHolding c) :
    a.SameHolding c :=
  ⟨second.owner.trans first.owner, second.data.trans first.data,
    second.executable.trans first.executable⟩

theorem lottery?_eq (same : a.SameHolding b) : b.lottery? = a.lottery? := by
  simp only [lottery?, same.owner, same.data]

theorem ticket?_eq (same : a.SameHolding b) : b.ticket? = a.ticket? := by
  simp only [ticket?, same.owner, same.data]

theorem tokens?_eq (same : a.SameHolding b) : b.tokens? = a.tokens? := by
  simp only [tokens?, same.owner, same.data]

theorem balance_eq (same : a.SameHolding b) : b.balance = a.balance := by
  simp only [balance, same.tokens?_eq]

theorem eq_of_lamports (same : a.SameHolding b) (lamports : b.lamports = a.lamports) : b = a := by
  obtain ⟨owner, data, executable⟩ := same
  cases a
  cases b
  simp_all

end SameHolding

end Account

end RangeLottery
