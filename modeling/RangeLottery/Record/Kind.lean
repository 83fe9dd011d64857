import RangeLottery.Bytes
import RangeLottery.Refusal

/-!
The kind of a record: the first byte of every account that the lottery program owns. For a lottery
the kind also says how far the lottery has come. A record is stored by overwriting a buffer of
exactly its length; any other buffer is refused and left as it was.
-/

namespace RangeLottery

inductive RecordKind where
  | uninitialized
  /-- A lottery without a winning number, whether it still sells or not. -/
  | undrawn
  | ticket
  /-- A lottery whose winner has been paid. -/
  | settled
  /-- A lottery with a winning number. -/
  | drawn
  /-- A lottery that reached its deadline without a sale. -/
  | voided
  deriving DecidableEq, Repr

namespace RecordKind

def code : RecordKind → UInt8
  | uninitialized => 0
  | undrawn => 1
  | ticket => 2
  | settled => 3
  | drawn => 4
  | voided => 5

def ofCode? (code : UInt8) : Option RecordKind :=
  if code = 0 then some uninitialized
  else if code = 1 then some undrawn
  else if code = 2 then some ticket
  else if code = 3 then some settled
  else if code = 4 then some drawn
  else if code = 5 then some voided
  else none

/-- Whether a record of this kind is a lottery. -/
def describesLottery : RecordKind → Bool
  | undrawn | settled | drawn | voided => true
  | uninitialized | ticket => false

def name : RecordKind → String
  | uninitialized => "Uninitialized"
  | undrawn => "Lottery"
  | ticket => "Ticket"
  | settled => "SettledLottery"
  | drawn => "DrawnLottery"
  | voided => "VoidedLottery"

/-- Every kind, in the order of the codes. -/
def all : List RecordKind :=
  [uninitialized, undrawn, ticket, settled, drawn, voided]

/-- The kind of a code byte, refused when no kind has it. -/
def decode (code : UInt8) : Except Refusal RecordKind :=
  (ofCode? code).elim (.error .malformedPayload) .ok

theorem ofCode?_eq_some_iff {code : UInt8} {kind : RecordKind} :
    ofCode? code = some kind ↔ code = kind.code := by
  constructor
  · unfold ofCode?
    intro found
    repeat' split at found
    all_goals first
      | (obtain rfl := Option.some.inj found; assumption)
      | simp at found
  · rintro rfl
    cases kind <;> rfl

@[simp] theorem ofCode?_code (kind : RecordKind) : ofCode? kind.code = some kind :=
  ofCode?_eq_some_iff.mpr rfl

end RecordKind

namespace Record

/-- Overwrites `buffer` with `record` and says whether the lengths agreed. -/
def store (record buffer : Bytes) : Except Refusal Unit × Bytes :=
  if buffer.length = record.length then (.ok (), record) else (.error .malformedPayload, buffer)

end Record

end RangeLottery
