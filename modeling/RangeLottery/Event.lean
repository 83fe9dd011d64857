import RangeLottery.Hash.Sha256

/-!
Events: what the program announces about each change that it made. An event is written as a tag,
the first eight bytes of the digest of its name, followed by its fields.
-/

namespace RangeLottery

inductive Event where
  | launched (lottery authority : Key) (capacity deadline : UInt64) (mint : Key)
  | bought (lottery ticket buyer : Key) (start stop amount sold : UInt64)
  | drawn (lottery : Key) (number slot sold : UInt64)
  | settled (lottery ticket winner : Key) (pool winnerAmount feeAmount : UInt64)
  | voided (lottery : Key) (deadline : UInt64)
  deriving DecidableEq, Repr

namespace Event

def name : Event → String
  | launched .. => "LotteryInitialized"
  | bought .. => "TicketsPurchased"
  | drawn .. => "WinnerDrawn"
  | settled .. => "LotterySettled"
  | voided .. => "LotteryVoided"

def tag (e : Event) : Bytes :=
  (Sha256.hash (Bytes.ofAscii "event:" ++ Bytes.ofAscii e.name)).bytes.take 8

def fields : Event → Bytes
  | launched lottery authority capacity deadline mint =>
    lottery.bytes ++ authority.bytes ++ Bytes.ofWord capacity ++ Bytes.ofWord deadline ++ mint.bytes
  | bought lottery ticket buyer start stop amount sold =>
    lottery.bytes ++ ticket.bytes ++ buyer.bytes ++ Bytes.ofWord start ++ Bytes.ofWord stop
      ++ Bytes.ofWord amount ++ Bytes.ofWord sold
  | drawn lottery number slot sold =>
    lottery.bytes ++ Bytes.ofWord number ++ Bytes.ofWord slot ++ Bytes.ofWord sold
  | settled lottery ticket winner pool winnerAmount feeAmount =>
    lottery.bytes ++ ticket.bytes ++ winner.bytes ++ Bytes.ofWord pool
      ++ Bytes.ofWord winnerAmount ++ Bytes.ofWord feeAmount
  | voided lottery deadline => lottery.bytes ++ Bytes.ofWord deadline

def encode (e : Event) : Bytes :=
  e.tag ++ e.fields

end Event

end RangeLottery
