import RangeLottery.Payout
import RangeLottery.Record.Ticket
import RangeLottery.SlotHistory
import RangeLottery.WinningNumber

/-!
Lotteries. A lottery sells the numbers below its capacity until its deadline, draws one of the
numbers sold and pays its holder once; one that sold nothing is voided. An operation that may be
refused gives its answer together with the record it leaves behind. The stored form is 161 bytes,
and main statement: the bytes that decode as a lottery are exactly the written form of that record,
which is of a lottery's kind and has not sold more than its capacity.
-/

namespace RangeLottery

/-- The record of one lottery. -/
structure Lottery where
  kind : RecordKind
  /-- The key that may settle or void the lottery. -/
  authority : Key
  /-- The token account that holds the purchases until settlement. -/
  vault : Key
  /-- The token account that receives the fee. -/
  feeAccount : Key
  /-- How many numbers there are to sell. -/
  capacity : UInt64
  /-- The slot from which nothing is sold any more. -/
  deadline : UInt64
  /-- The winning number, and zero before the draw. -/
  number : UInt64
  /-- How many numbers have been sold; the next ticket starts here. -/
  sold : UInt64
  /-- The token that purchases are paid in. -/
  mint : Key
  deriving DecidableEq, Repr

/-- How far a lottery has come. -/
inductive Phase where
  | selling
  /-- Sold out or past the deadline, and not drawn. -/
  | closed
  | drawn
  | settled
  | voided
  deriving DecidableEq, Repr

def Phase.name : Phase → String
  | selling => "Open"
  | closed => "Closed"
  | drawn => "Drawn"
  | settled => "Settled"
  | voided => "Voided"

namespace Lottery

/-! ### Operations -/

/-- A lottery that has sold nothing yet. -/
def launch (authority vault feeAccount mint : Key) (capacity deadline slot : UInt64) :
    Except Refusal Lottery :=
  if capacity = 0 then .error .invalidCapacity
  else if deadline ≤ slot then .error .invalidDeadline
  else .ok {
    kind := .undrawn
    authority
    vault
    feeAccount
    capacity
    deadline
    number := 0
    sold := 0
    mint }

/-- The phase at `slot`. -/
def phase (l : Lottery) (slot : UInt64) : Phase :=
  match l.kind with
  | .drawn => .drawn
  | .settled => .settled
  | .voided => .voided
  | .uninitialized | .undrawn | .ticket =>
    if l.deadline ≤ slot ∨ l.capacity ≤ l.sold then .closed else .selling

/-- The winning number, once it is drawn. -/
def winningNumber? (l : Lottery) : Option UInt64 :=
  match l.kind with
  | .drawn | .settled => some l.number
  | .uninitialized | .undrawn | .ticket | .voided => none

/-- Accepts the authority of the lottery and no other signer. -/
def authorize (l : Lottery) (signer : Key) : Except Refusal Unit :=
  if signer = l.authority then .ok () else .error .unauthorized

/-- Sells the next `amount` numbers of the lottery at `id` to `buyer`. -/
def issue (l : Lottery) (id buyer : Key) (amount slot : UInt64) :
    Except Refusal Ticket × Lottery :=
  if l.kind ≠ .undrawn ∨ l.deadline ≤ slot then (.error .lotteryClosed, l)
  else if amount = 0 then (.error .invalidAmount, l)
  else
    match Amount.add? l.sold amount with
    | none => (.error .arithmeticOverflow, l)
    | some stop =>
      if l.capacity < stop then (.error .capacityExceeded, l)
      else (.ok ⟨id, buyer, l.sold, stop⟩, { l with sold := stop })

/-- Accepts a lottery that can be drawn at `slot`. -/
def readyToDraw (l : Lottery) (slot : UInt64) : Except Refusal Unit :=
  match l.kind with
  | .undrawn =>
    if slot < l.deadline then .error .lotteryStillOpen
    else if l.sold = 0 then .error .noTicketsSold
    else .ok ()
  | .drawn | .settled => .error .alreadyDrawn
  | .voided => .error .noTicketsSold
  | .uninitialized | .ticket => .error .malformedPayload

/-- Draws the winning number of the lottery at `id` from `sample`, which has to be younger than
the last slot in which a number could be sold. -/
def draw (l : Lottery) (id : Key) (sample : SlotHash) (slot : UInt64) :
    Except Refusal UInt64 × Lottery :=
  match l.readyToDraw slot with
  | .error reason => (.error reason, l)
  | .ok () =>
    if sample.slot ≤ l.deadline then (.error .lotteryStillOpen, l)
    else
      match WinningNumber.derive sample.hash id l.sold with
      | .error reason => (.error reason, l)
      | .ok number => (.ok number, { l with number, kind := .drawn })

/-- Divides `balance` for the lottery at `id`, if `ticket` holds its winning number. -/
def settle (l : Lottery) (id : Key) (ticket : Ticket) (balance : UInt64) :
    Except Refusal Payout × Lottery :=
  match l.kind with
  | .drawn =>
    if ticket.lottery ≠ id then (.error .invalidAccount, l)
    else if ticket.contains l.number = false then (.error .notWinningTicket, l)
    else
      match Payout.split balance Payout.feeRate with
      | .error reason => (.error reason, l)
      | .ok payout => (.ok payout, { l with kind := .settled })
  | .settled | .voided => (.error .alreadySettled, l)
  | .undrawn => (.error .notDrawn, l)
  | .uninitialized | .ticket => (.error .malformedPayload, l)

/-- Closes a lottery that reached its deadline without a sale. -/
def void (l : Lottery) (slot : UInt64) : Except Refusal Unit × Lottery :=
  match l.kind with
  | .undrawn =>
    if slot < l.deadline then (.error .lotteryStillOpen, l)
    else if l.sold ≠ 0 then (.error .ticketsSold, l)
    else (.ok (), { l with kind := .voided })
  | .drawn => (.error .alreadyDrawn, l)
  | .settled | .voided => (.error .alreadySettled, l)
  | .uninitialized | .ticket => (.error .malformedPayload, l)

/-! ### Stored form -/

/-- The length of a stored lottery. -/
def width : Nat :=
  161

/-- What every stored lottery satisfies. -/
def Storable (l : Lottery) : Prop :=
  l.kind.describesLottery = true ∧ l.sold ≤ l.capacity

instance (l : Lottery) : Decidable l.Storable :=
  inferInstanceAs (Decidable (_ ∧ _))

def encode (l : Lottery) : Bytes :=
  l.kind.code :: l.authority.bytes ++ l.vault.bytes ++ l.feeAccount.bytes
    ++ Bytes.ofWord l.capacity ++ Bytes.ofWord l.deadline ++ Bytes.ofWord l.number
    ++ Bytes.ofWord l.sold ++ l.mint.bytes

def decode? (bytes : Bytes) : Option Lottery := do
  let (code, bytes) ← Bytes.takeByte? bytes
  let kind ← RecordKind.ofCode? code
  let (authority, bytes) ← Key.take? bytes
  let (vault, bytes) ← Key.take? bytes
  let (feeAccount, bytes) ← Key.take? bytes
  let (capacity, bytes) ← Bytes.takeWord? bytes
  let (deadline, bytes) ← Bytes.takeWord? bytes
  let (number, bytes) ← Bytes.takeWord? bytes
  let (sold, bytes) ← Bytes.takeWord? bytes
  let (mint, rest) ← Key.take? bytes
  let l : Lottery :=
    { kind, authority, vault, feeAccount, capacity, deadline, number, sold, mint }
  if rest = [] ∧ l.Storable then some l else none

def decode (bytes : Bytes) : Except Refusal Lottery :=
  (decode? bytes).elim (.error .malformedPayload) .ok

/-- Stores the lottery in `buffer`. -/
def store (l : Lottery) (buffer : Bytes) : Except Refusal Unit × Bytes :=
  Record.store l.encode buffer

@[simp] theorem length_encode (l : Lottery) : l.encode.length = width := by
  simp [encode, width]

theorem decode?_encode {l : Lottery} (storable : l.Storable) : decode? l.encode = some l := by
  simp [decode?, encode, storable]

theorem decode?_eq_some_iff {bytes : Bytes} {l : Lottery} :
    decode? bytes = some l ↔ l.Storable ∧ bytes = l.encode := by
  constructor
  · simp only [decode?, Option.bind_eq_bind, Option.bind_eq_some_iff, Prod.exists,
      Bytes.takeByte?_eq_some_iff, Key.take?_eq_some_iff, Bytes.takeWord?_eq_some_iff,
      RecordKind.ofCode?_eq_some_iff]
    rintro ⟨code, _, rfl, kind, rfl, authority, _, rfl, vault, _, rfl, feeAccount, _, rfl, capacity,
      _, rfl, deadline, _, rfl, number, _, rfl, sold, _, rfl, mint, rest, rfl, built⟩
    split at built
    · rename_i accepted
      obtain ⟨rfl, storable⟩ := accepted
      obtain rfl := Option.some.inj built
      exact ⟨storable, by simp [encode]⟩
    · simp at built
  · rintro ⟨storable, rfl⟩
    exact decode?_encode storable

end Lottery

end RangeLottery
