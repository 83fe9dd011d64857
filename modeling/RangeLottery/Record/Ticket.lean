import RangeLottery.Amount
import RangeLottery.Key
import RangeLottery.Record.Kind

/-!
Tickets. One purchase takes the numbers from `start` up to but not including `stop`, and its ticket
is stored as 81 bytes. Main statement: the bytes that decode as a ticket are exactly the written
form of that ticket, and its range is not empty.
-/

namespace RangeLottery

/-- The purchase of a range of numbers of one lottery. -/
structure Ticket where
  /-- The account of the lottery. -/
  lottery : Key
  buyer : Key
  start : UInt64
  stop : UInt64
  deriving DecidableEq, Repr

namespace Ticket

/-- The length of a stored ticket. -/
def width : Nat :=
  81

/-- How many numbers the ticket holds; a range that ends before it starts holds none. -/
def size (t : Ticket) : UInt64 :=
  (Amount.sub? t.stop t.start).getD 0

/-- Whether the ticket holds `number`. -/
def contains (t : Ticket) (number : UInt64) : Bool :=
  t.start ≤ number && number < t.stop

/-! ### Stored form -/

def encode (t : Ticket) : Bytes :=
  RecordKind.ticket.code :: t.lottery.bytes ++ t.buyer.bytes ++ Bytes.ofWord t.start
    ++ Bytes.ofWord t.stop

def decode? (bytes : Bytes) : Option Ticket := do
  let (code, bytes) ← Bytes.takeByte? bytes
  let (lottery, bytes) ← Key.take? bytes
  let (buyer, bytes) ← Key.take? bytes
  let (start, bytes) ← Bytes.takeWord? bytes
  let (stop, rest) ← Bytes.takeWord? bytes
  if rest = [] ∧ RecordKind.ofCode? code = some .ticket ∧ start < stop then
    some ⟨lottery, buyer, start, stop⟩
  else none

def decode (bytes : Bytes) : Except Refusal Ticket :=
  (decode? bytes).elim (.error .malformedPayload) .ok

/-- Stores the ticket in `buffer`. -/
def store (t : Ticket) (buffer : Bytes) : Except Refusal Unit × Bytes :=
  Record.store t.encode buffer

@[simp] theorem length_encode (t : Ticket) : t.encode.length = width := by
  simp [encode, width]

theorem decode?_encode {t : Ticket} (nonempty : t.start < t.stop) : decode? t.encode = some t := by
  simp [decode?, encode, nonempty]

theorem decode?_eq_some_iff {bytes : Bytes} {t : Ticket} :
    decode? bytes = some t ↔ t.start < t.stop ∧ bytes = t.encode := by
  constructor
  · simp only [decode?, Option.bind_eq_bind, Option.bind_eq_some_iff, Prod.exists,
      Bytes.takeByte?_eq_some_iff, Key.take?_eq_some_iff, Bytes.takeWord?_eq_some_iff,
      RecordKind.ofCode?_eq_some_iff]
    rintro ⟨code, _, rfl, lottery, _, rfl, buyer, _, rfl, start, _, rfl, stop, rest, rfl, built⟩
    split at built
    · rename_i accepted
      obtain ⟨rfl, rfl, nonempty⟩ := accepted
      obtain rfl := Option.some.inj built
      exact ⟨nonempty, by simp [encode]⟩
    · simp at built
  · rintro ⟨nonempty, rfl⟩
    exact decode?_encode nonempty

end Ticket

end RangeLottery
