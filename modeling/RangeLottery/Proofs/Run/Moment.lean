import Mathlib.Data.List.Induction
import RangeLottery.Client
import RangeLottery.Proofs.Record.Course
import RangeLottery.Proofs.Step.Deed

/-!
Runs. A run takes steps one after another, and the ledger may write its slot hashes before each of
them. What holds after every run is proved by induction on the moments, with the last one at the end,
so that an invariant may speak of the whole past.
-/

namespace RangeLottery

/-- A step, and what the ledger writes into its slot hashes before it, if it does. -/
structure Moment where
  hashes? : Option Bytes
  step : Step
  deriving DecidableEq, Repr

/-- Writes the slot hashes. The ledger keeps them in an account of its own: a record or a token
account is not one. -/
def Book.refresh (b : Book) : Option Bytes → Book
  | none => b
  | some data =>
    let owner := (b.account Known.slotHashes).owner
    if owner = Known.lotteryProgram ∨ owner = Known.tokenProgram then b
    else b.modify Known.slotHashes fun a => { a with data }

namespace Moment

/-- The book that the step is taken on. -/
def book (m : Moment) (b : Book) : Book :=
  b.refresh m.hashes?

/-- What comes of the step. -/
def outcome (m : Moment) (b : Book) : Outcome :=
  m.step.run (m.book b)

end Moment

/-- The book after `moments`, taken in order. -/
def Book.through (b : Book) (moments : List Moment) : Book :=
  moments.foldl (fun b m => (m.outcome b).book) b

/-- The book in which the lottery program owns nothing. -/
def Book.Unclaimed (b : Book) : Prop :=
  ∀ key, (b.account key).owner ≠ Known.lotteryProgram

theorem Book.unclaimed_of_forall_mem {b : Book}
    (unclaimed : ∀ named ∈ b, named.2.owner ≠ Known.lotteryProgram) : b.Unclaimed := by
  intro key
  induction b with
  | nil => exact Known.lotteryProgram_ne_systemProgram.symm
  | cons named rest ih =>
    obtain ⟨k, a⟩ := named
    unfold account
    split
    · exact unclaimed (k, a) List.mem_cons_self
    · exact ih fun named mem => unclaimed named (List.mem_cons_of_mem _ mem)

/-- An account with data is listed. -/
theorem Book.mem_of_data_ne_nil {b : Book} {key : Key} (data : (b.account key).data ≠ []) :
    (key, b.account key) ∈ b := by
  induction b with
  | nil => exact absurd rfl data
  | cons named rest ih =>
    obtain ⟨k, a⟩ := named
    unfold account at data ⊢
    split
    · rename_i here
      rw [here]
      exact List.mem_cons_self
    · rename_i apart
      rw [if_neg apart] at data
      exact List.mem_cons_of_mem _ (ih data)

namespace Book

variable {b : Book} {moments : List Moment} {m : Moment}

@[simp] theorem through_nil (b : Book) : b.through [] = b :=
  rfl

@[simp] theorem through_concat (b : Book) (moments : List Moment) (m : Moment) :
    b.through (moments ++ [m]) = (m.outcome (b.through moments)).book := by
  simp [through]

theorem through_append (b : Book) (first second : List Moment) :
    b.through (first ++ second) = (b.through first).through second :=
  List.foldl_append

/-- Steps without a word about the slot hashes are taken as they are. -/
theorem through_map_steps (b : Book) (steps : List Step) :
    b.through (steps.map fun s => ⟨none, s⟩) = b.after steps := by
  induction steps generalizing b with
  | nil => rfl
  | cons s rest ih => exact ih _

/-! ### Slot hashes -/

/-- Writing the slot hashes changes no record and no token account. -/
theorem refresh_readings (b : Book) (hashes? : Option Bytes) (key : Key) :
    ((b.refresh hashes?).account key).lottery? = (b.account key).lottery? ∧
      ((b.refresh hashes?).account key).ticket? = (b.account key).ticket? ∧
        ((b.refresh hashes?).account key).tokens? = (b.account key).tokens? := by
  unfold refresh
  cases hashes? with
  | none => exact ⟨rfl, rfl, rfl⟩
  | some data =>
    dsimp only
    split
    · exact ⟨rfl, rfl, rfl⟩
    · rename_i foreign
      obtain ⟨unrecorded, unheld⟩ := not_or.mp foreign
      by_cases here : key = Known.slotHashes
      · rw [here, account_modify_self]
        simp [Account.lottery?, Account.ticket?, Account.tokens?, unrecorded, unheld]
      · rw [account_modify_of_ne here]
        exact ⟨rfl, rfl, rfl⟩

end Book

namespace Moment

variable {m : Moment} {b : Book}

@[simp] theorem lottery?_book (m : Moment) (b : Book) (key : Key) :
    ((m.book b).account key).lottery? = (b.account key).lottery? :=
  (b.refresh_readings m.hashes? key).1

@[simp] theorem ticket?_book (m : Moment) (b : Book) (key : Key) :
    ((m.book b).account key).ticket? = (b.account key).ticket? :=
  (b.refresh_readings m.hashes? key).2.1

@[simp] theorem tokens?_book (m : Moment) (b : Book) (key : Key) :
    ((m.book b).account key).tokens? = (b.account key).tokens? :=
  (b.refresh_readings m.hashes? key).2.2

@[simp] theorem balance_book (m : Moment) (b : Book) (key : Key) :
    ((m.book b).account key).balance = (b.account key).balance := by
  simp [Account.balance]

/-- A moment leaves the book that its step is taken on, or its step does a deed. -/
theorem outcome_cases (m : Moment) (b : Book) :
    (m.outcome b).book = m.book b ∨
      ((m.outcome b).result = .ok () ∧
        ∃ event, m.step.Deed (m.book b) (m.outcome b).book event) :=
  m.step.book_run_cases (m.book b)

/-- The record at `key` after a moment. -/
theorem moves (m : Moment) (b : Book) (key : Key) :
    Lottery.Moves (m.book b) m.step.slot key (b.account key).lottery?
      ((m.outcome b).book.account key).lottery? := by
  rcases m.outcome_cases b with idle | ⟨-, event, deed⟩
  · rw [idle, lottery?_book]
    exact .kept _
  · rw [← m.lottery?_book b key]
    exact deed.moves key

theorem lasting (m : Moment) (b : Book) : b.Lasting (m.outcome b).book := by
  have found : b.Lasting (m.book b) :=
    ⟨fun key l recorded => ⟨l, (m.lottery?_book b key).trans recorded, rfl⟩,
      fun key _ recorded => (m.ticket?_book b key).trans recorded,
      fun key tokens held => ⟨tokens.amount, (m.tokens?_book b key).trans held⟩⟩
  rcases m.outcome_cases b with idle | ⟨-, event, deed⟩
  · rw [idle]
    exact found
  · exact found.trans deed.lasting

/-- A lottery was recorded before, with its terms, or the moment opened it. -/
theorem lottery_cases {key : Key} {l : Lottery}
    (recorded : ((m.outcome b).book.account key).lottery? = some l) :
    (∃ l₀, (b.account key).lottery? = some l₀ ∧ l₀.SameTerms l) ∨
      ∃ capacity deadline a, a.lottery.key = key ∧
        Opening.Effect m.step.slot capacity deadline m.step.call.accounts a l (m.book b)
          (m.outcome b).book := by
  have old : (∃ l₀, (b.account key).lottery? = some l₀) →
      ∃ l₀, (b.account key).lottery? = some l₀ ∧ l₀.SameTerms l := by
    rintro ⟨l₀, before⟩
    obtain ⟨l', after, same⟩ := (m.lasting b).lottery key l₀ before
    rw [recorded] at after
    cases after
    exact ⟨l₀, before, same⟩
  rcases m.outcome_cases b with idle | ⟨-, event, deed⟩
  · rw [idle, lottery?_book] at recorded
    exact .inl (old ⟨l, recorded⟩)
  · rcases deed.lottery_cases recorded with before | opened
    · rw [lottery?_book] at before
      exact .inl (old before)
    · exact .inr opened

/-- A ticket was recorded before, or the moment is its purchase. -/
theorem ticket_cases {id : Key} {t : Ticket}
    (recorded : ((m.outcome b).book.account id).ticket? = some t) :
    (b.account id).ticket? = some t ∨
      ∃ amount a l l', a.ticket.key = id ∧
        Purchase.Effect m.step.slot amount m.step.call.accounts a l l' t (m.book b)
          (m.outcome b).book := by
  rcases m.outcome_cases b with idle | ⟨-, event, deed⟩
  · rw [idle, ticket?_book] at recorded
    exact .inl recorded
  · rcases deed.ticket_cases recorded with before | bought
    · rw [ticket?_book] at before
      exact .inl before
    · exact .inr bought

end Moment

/-- The step of the moment succeeds with `request`, and `key` is the first account of its call. -/
structure Moment.Grants (m : Moment) (b : Book) (request : Request) (key : Key) : Prop where
  result : (m.outcome b).result = .ok ()
  request : Request.decode? m.step.call.data = some request
  lottery : (m.step.call.accounts[0]?.map Entry.key) = some key

namespace Moment.Grants

variable {m : Moment} {b : Book} {key : Key}

theorem opening {capacity deadline : UInt64} (granted : m.Grants b (.launch capacity deadline) key) :
    ∃ a l, a.lottery.key = key ∧
      Opening.Effect m.step.slot capacity deadline m.step.call.accounts a l (m.book b)
        (m.outcome b).book := by
  obtain ⟨event, -, deed⟩ := Step.deed_of_ok granted.result
  cases deed with
  | opening request effect =>
    rw [granted.request] at request
    cases request
    have same := granted.lottery
    rw [effect.loaded.lottery] at same
    exact ⟨_, _, Option.some.inj same, effect⟩
  | purchase request _ => cases granted.request.symm.trans request
  | drawing request _ => cases granted.request.symm.trans request
  | settlement request _ _ => cases granted.request.symm.trans request
  | voiding request _ => cases granted.request.symm.trans request

theorem settlement (granted : m.Grants b .settle key) :
    ∃ a l l' t payout, a.lottery.key = key ∧
      Settlement.Effect m.step.call.accounts a l l' t payout (m.book b) (m.outcome b).book := by
  obtain ⟨event, -, deed⟩ := Step.deed_of_ok granted.result
  cases deed with
  | settlement request effect _ =>
    have same := granted.lottery
    rw [effect.loaded.lottery] at same
    exact ⟨_, _, _, _, _, Option.some.inj same, effect⟩
  | opening request _ => cases granted.request.symm.trans request
  | purchase request _ => cases granted.request.symm.trans request
  | drawing request _ => cases granted.request.symm.trans request
  | voiding request _ => cases granted.request.symm.trans request

end Moment.Grants

/-- Lotteries keep their terms, tickets everything and token accounts their owner through a run. -/
theorem Book.lasting_through (b : Book) (moments : List Moment) : b.Lasting (b.through moments) := by
  induction moments using List.reverseRecOn with
  | nil => exact .refl b
  | append_singleton earlier m lasting =>
    rw [through_concat]
    exact lasting.trans (m.lasting _)

/-! ### A small ledger

One lottery and one buyer, for runs that are carried out. -/

namespace Sample

def purse : Key :=
  .ofNat 5

def ticket : Key :=
  .ofNat 7

/-- The custody address of the lottery. -/
def custody : Key :=
  .ofNat 0x2c40c0e9cc124bfd751e1c1f77f7f40cf148f5a052aa98b6732f86acb57837c9

/-- The token account that the buyer keeps for the mint. -/
def prizeAccount : Key :=
  .ofNat 0x7a517398e5c9b60488710f866fc06300bf1dd6c2470f4c42256a05b92066ebb4

def wallet (lamports : UInt64) : Account :=
  ⟨Known.systemProgram, lamports, [], false⟩

def program : Account :=
  ⟨Known.systemProgram, 1, [], true⟩

def tokens (wallet : Key) (amount : UInt64) : Account :=
  ⟨Known.tokenProgram, 2039280, TokenAccount.setAmount (TokenAccount.encodeNew mint wallet) amount,
    false⟩

/-- The slots that the ledger has had by the end, oldest first. -/
def chain : List SlotHash :=
  [⟨19, .ofNat 100⟩, ⟨48, .ofNat 101⟩, ⟨51, .ofNat 102⟩, ⟨53, .ofNat 103⟩]

/-- A buyer with a hundred tokens, and nothing of the lottery program. -/
def book : Book := [
  (authority, wallet 10000000),
  (buyer, wallet 10000000),
  (purse, tokens buyer 100),
  (mint, ⟨Known.tokenProgram, 1461600, List.replicate 45 0 ++ 1 :: List.replicate 36 0, false⟩),
  (Known.tokenProgram, program),
  (Known.associatedTokenProgram, program),
  (Known.systemProgram, program),
  (Known.slotHashes, ⟨Known.systemProgram, 1, SlotHistory.encode (chain.take 1), false⟩)]

def programs : List Entry :=
  [.reading Known.tokenProgram, .reading Known.associatedTokenProgram, .reading Known.systemProgram]

/-- The authority opens the lottery at slot 20. -/
def opening : Moment where
  hashes? := none
  step := {
    slot := 20
    call := {
      program := Known.lotteryProgram
      accounts := [.mutableSigner lottery, .mutableSigner authority, .reading Known.feeCollector,
        .reading custody, .mutable vault, .mutable feeAccount, .reading mint] ++ programs
      data := (Request.launch 100 50).encode } }

/-- The buyer buys forty numbers at slot 30. -/
def purchase : Moment where
  hashes? := none
  step := ⟨30, Client.buy Known.lotteryProgram lottery launched ticket buyer purse 40⟩

/-- The book after the opening. -/
def opened : Book := book.put authority (wallet 3910000) ++ [
  (vault, tokens custody 0),
  (feeAccount, tokens Known.feeCollector 0),
  (lottery, ⟨Known.lotteryProgram, 2011440, launched.encode, false⟩)]

/-- The book after the purchase. -/
def purchased : Book :=
  (((opened.put buyer (wallet 8545360)).put purse (tokens buyer 60)).put vault
    (tokens custody 40)).put lottery
      ⟨Known.lotteryProgram, 2011440, { launched with sold := 40 }.encode, false⟩ ++ [
    (ticket, ⟨Known.lotteryProgram, 1454640, Ticket.encode ⟨lottery, buyer, 0, 40⟩, false⟩)]

/-- Anyone draws the number at slot 60. -/
def drawing : Moment where
  hashes? := some (SlotHistory.encode (chain.take 3).reverse)
  step := ⟨60, Client.draw Known.lotteryProgram lottery authority⟩

/-- The book after the draw. -/
def drawn : Book :=
  (purchased.put Known.slotHashes
      ⟨Known.systemProgram, 1, SlotHistory.encode (chain.take 3).reverse, false⟩).put lottery
    ⟨Known.lotteryProgram, 2011440,
      { launched with kind := .drawn, number := 19, sold := 40 }.encode, false⟩

theorem opening_done :
    (opening.outcome book).result = .ok () ∧ (opening.outcome book).book = opened := by
  decide +kernel

theorem purchase_done :
    (purchase.outcome opened).result = .ok () ∧ (purchase.outcome opened).book = purchased := by
  decide +kernel

theorem drawing_done :
    (drawing.outcome purchased).result = .ok () ∧ (drawing.outcome purchased).book = drawn := by
  decide +kernel

theorem through_purchase : book.through [opening, purchase] = purchased := by
  change ((purchase.outcome (opening.outcome book).book).book) = purchased
  rw [opening_done.2, purchase_done.2]

theorem through_purchase_cons (m : Moment) :
    book.through [opening, purchase, m] = (m.outcome purchased).book := by
  change (m.outcome (book.through [opening, purchase])).book = (m.outcome purchased).book
  rw [through_purchase]

theorem through_drawing : book.through [opening, purchase, drawing] = drawn := by
  rw [through_purchase_cons, drawing_done.2]

theorem unclaimed : book.Unclaimed :=
  Book.unclaimed_of_forall_mem (by decide)

theorem custody_eq : (Address.custody lottery).address = custody := by
  decide +kernel

/-- There is no other lottery. -/
theorem lottery_unique {key : Key} (recorded : (purchased.account key).lottery?.isSome) :
    key = lottery := by
  have only : ∀ named ∈ purchased, named.2.lottery?.isSome → named.1 = lottery := by
    decide +kernel
  obtain ⟨l, recorded'⟩ := Option.isSome_iff_exists.mp recorded
  exact only _ (Book.mem_of_data_ne_nil (Account.data_ne_nil_of_lottery? recorded')) recorded

end Sample

end RangeLottery
