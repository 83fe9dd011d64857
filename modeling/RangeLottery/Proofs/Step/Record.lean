import RangeLottery.Proofs.Record.Lottery
import RangeLottery.Proofs.Step.Session

/-!
Writing records. A step writes one lottery record and at most one new ticket record. The lemmas here
say what such a write does to the readings of the book, for an account that the lottery program owns
already and for one that was just created for it.
-/

namespace RangeLottery

namespace Book

variable {b c : Book} {key : Key}

/-! ### Overwriting -/

/-- The records of the lottery program hold no tokens, whatever their data. -/
theorem balance_write (owned : (b.account key).owner = Known.lotteryProgram) (data : Bytes)
    (other : Key) :
    ((b.modify key fun a => { a with data }).account other).balance =
      (b.account other).balance := by
  by_cases here : other = key
  · rw [here, account_modify_self, Account.balance_of_tokens?_eq_none,
      Account.balance_of_tokens?_eq_none (Account.tokens?_eq_none_of_owner owned)]
    exact Account.tokens?_eq_none_of_owner owned
  · rw [account_modify_of_ne here]

theorem lottery?_write {l : Lottery} (owned : (b.account key).owner = Known.lotteryProgram)
    (storable : l.Storable) :
    ((b.modify key fun a => { a with data := l.encode }).account key).lottery? = some l := by
  rw [account_modify_self]
  exact Account.lottery?_eq_some_iff.mpr ⟨owned, storable, rfl⟩

theorem ticket?_write {t : Ticket} (owned : (b.account key).owner = Known.lotteryProgram)
    (nonempty : t.start < t.stop) :
    ((b.modify key fun a => { a with data := t.encode }).account key).ticket? = some t := by
  rw [account_modify_self]
  exact Account.ticket?_eq_some_iff.mpr ⟨owned, nonempty, rfl⟩

/-- Overwriting a record of the lottery program with one of its length. -/
theorem evolves_record {data : Bytes} (owned : (b.account key).owner = Known.lotteryProgram)
    (length : (b.account key).data.length = data.length) :
    b.Evolves (b.modify key fun a => { a with data }) :=
  evolves_write (Account.tokens?_eq_none_of_owner owned) length.symm

/-- Creating a record moves no tokens. -/
theorem balance_of_allocated {data : Bytes}
    (allocated : b.Allocated c key data Known.lotteryProgram) {charged : List Key}
    (confined : b.Confined c [key] charged) (other : Key) :
    (c.account other).balance = (b.account other).balance := by
  by_cases here : other = key
  · rw [here, Account.balance_of_tokens?_eq_none
        (Account.tokens?_eq_none_of_owner allocated.owner_after),
      Account.balance_of_tokens?_eq_none (Account.tokens?_eq_none_of_vacant allocated.vacant)]
  · exact (confined.holding other fun mem => here (List.mem_singleton.mp mem)).balance_eq

/-! ### Readings of the whole book -/

/-- An account without data had none before. -/
theorem Evolves.vacant (evolves : b.Evolves c) (vacant : (c.account key).data = []) :
    (b.account key).data = [] := by
  by_cases present : (b.account key).data = []
  · exact present
  · exact absurd vacant (evolves.data_ne_nil present)

/-- A recorded lottery stays owned by the lottery program and as long as a record is. -/
theorem Evolves.lottery_owned (evolves : b.Evolves c) {l : Lottery}
    (before : (b.account key).lottery? = some l) :
    (c.account key).owner = Known.lotteryProgram ∧
      (c.account key).data.length = Lottery.width := by
  obtain ⟨owned, -, stored⟩ := Account.lottery?_eq_some_iff.mp before
  have present := Account.data_ne_nil_of_lottery? before
  rw [evolves.owner _ present, evolves.length _ present, stored]
  exact ⟨owned, Lottery.length_encode l⟩

/-- The account is no record in either book. -/
structure Unrecorded (b c : Book) (key : Key) : Prop where
  lottery_before : (b.account key).lottery? = none
  lottery_after : (c.account key).lottery? = none
  ticket_before : (b.account key).ticket? = none
  ticket_after : (c.account key).ticket? = none

theorem Evolves.unrecorded (evolves : b.Evolves c) {tokens : TokenAccount}
    (held : (c.account key).tokens? = some tokens) : b.Unrecorded c key :=
  ⟨evolves.lottery?_eq_none held, Account.lottery?_eq_none_of_tokens? held,
    evolves.ticket?_eq_none held, Account.ticket?_eq_none_of_tokens? held⟩

theorem Evolves.unrecorded_of_tokens? (evolves : b.Evolves c) {tokens : TokenAccount}
    (held : (b.account key).tokens? = some tokens) : b.Unrecorded c key := by
  obtain ⟨_, held'⟩ := evolves.tokens key tokens held
  exact evolves.unrecorded held'

/-- The lotteries of a book after the one at `key` was written. -/
theorem lottery?_eq_of_confined {rewritten charged : List Key} {l : Lottery}
    (confined : b.Confined c rewritten charged) (written : (c.account key).lottery? = some l)
    (others : ∀ other ∈ rewritten, other ≠ key →
      (b.account other).lottery? = none ∧ (c.account other).lottery? = none)
    (other : Key) :
    (c.account other).lottery? =
      if other = key then some l else (b.account other).lottery? := by
  split
  · rename_i here
    rw [here, written]
  · rename_i apart
    by_cases mem : other ∈ rewritten
    · obtain ⟨before, after⟩ := others other mem apart
      rw [before, after]
    · exact (confined.holding other mem).lottery?_eq

/-- The tickets of a book in which no ticket was written. -/
theorem ticket?_eq_of_confined {rewritten charged : List Key}
    (confined : b.Confined c rewritten charged)
    (others : ∀ other ∈ rewritten,
      (b.account other).ticket? = none ∧ (c.account other).ticket? = none)
    (other : Key) : (c.account other).ticket? = (b.account other).ticket? := by
  by_cases mem : other ∈ rewritten
  · obtain ⟨before, after⟩ := others other mem
    rw [before, after]
  · exact (confined.holding other mem).ticket?_eq

/-- The lotteries after the one at `key` was written, where nothing else that changed is a record. -/
theorem lottery?_eq_of_unrecorded {others charged : List Key} {l : Lottery}
    (confined : b.Confined c (key :: others) charged)
    (written : (c.account key).lottery? = some l)
    (unrecorded : ∀ other ∈ others, b.Unrecorded c other) (other : Key) :
    (c.account other).lottery? =
      if other = key then some l else (b.account other).lottery? := by
  refine lottery?_eq_of_confined confined written ?_ other
  intro changed mem apart
  rcases List.mem_cons.mp mem with here | mem
  · exact absurd here apart
  · exact ⟨(unrecorded changed mem).lottery_before, (unrecorded changed mem).lottery_after⟩

/-- The tickets after the lottery at `key` was written, where nothing else that changed is a record. -/
theorem ticket?_eq_of_unrecorded {others charged : List Key} {l : Lottery}
    (confined : b.Confined c (key :: others) charged)
    (before : (b.account key).ticket? = none) (written : (c.account key).lottery? = some l)
    (unrecorded : ∀ other ∈ others, b.Unrecorded c other) (other : Key) :
    (c.account other).ticket? = (b.account other).ticket? := by
  refine ticket?_eq_of_confined confined ?_ other
  intro changed mem
  rcases List.mem_cons.mp mem with here | mem
  · rw [here]
    exact ⟨before, Account.ticket?_eq_none_of_lottery? written⟩
  · exact ⟨(unrecorded changed mem).ticket_before, (unrecorded changed mem).ticket_after⟩

end Book

/-- A step that only writes the record of a lottery: the record at `key` was `l` and is `l'`, and
nothing else differs. -/
structure Book.Rewritten (b c : Book) (key : Key) (l l' : Lottery) : Prop where
  before : (b.account key).lottery? = some l
  lotteries : ∀ other, (c.account other).lottery? =
    if other = key then some l' else (b.account other).lottery?
  tickets : ∀ other, (c.account other).ticket? = (b.account other).ticket?
  balance : ∀ other, (c.account other).balance = (b.account other).balance
  evolves : b.Evolves c
  confined : b.Confined c [key] []

theorem Book.rewritten_write {b : Book} {key : Key} {l l' : Lottery}
    (before : (b.account key).lottery? = some l) (storable : l'.Storable) :
    b.Rewritten (b.modify key fun a => { a with data := l'.encode }) key l l' := by
  obtain ⟨owned, -, stored⟩ := Account.lottery?_eq_some_iff.mp before
  have after := Book.lottery?_write owned storable
  have confined := Book.confined_write b key fun _ => l'.encode
  have nothingElse : ∀ other ∈ ([] : List Key),
      b.Unrecorded (b.modify key fun a => { a with data := l'.encode }) other := by
    intro other mem
    cases mem
  exact {
    before := before
    lotteries := Book.lottery?_eq_of_unrecorded confined after nothingElse
    tickets := Book.ticket?_eq_of_unrecorded confined
      (Account.ticket?_eq_none_of_lottery? before) after nothingElse
    balance := Book.balance_write owned l'.encode
    evolves := Book.evolves_record owned (by simp [stored])
    confined := confined }

end RangeLottery
