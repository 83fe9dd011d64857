/-!
The reasons for which the lottery refuses an operation. Each has a name, a number and a sentence,
and all three are part of what a caller sees.
-/

namespace RangeLottery

inductive Refusal where
  /-- A record, a request or a slot history did not decode. -/
  | malformedPayload
  | invalidCapacity
  | capacityExceeded
  | lotteryClosed
  | lotteryStillOpen
  | invalidAmount
  | alreadyDrawn
  | noTicketsSold
  | alreadySettled
  /-- Raised only when the tickets leave a gap. -/
  | noWinningTicketFound
  | unauthorized
  | insufficientFunds
  | arithmeticOverflow
  | invalidDeadline
  | notDrawn
  | notWinningTicket
  | ticketsSold
  | invalidAccount
  | alreadyInitialized
  | invalidTicketRange
  /-- The first slot after the deadline has left the slot history. -/
  | checkpointExpired
  deriving DecidableEq, Repr

namespace Refusal

/-- Every reason, in the order of the numbers. -/
def all : List Refusal :=
  [malformedPayload, invalidCapacity, capacityExceeded, lotteryClosed, lotteryStillOpen,
    invalidAmount, alreadyDrawn, noTicketsSold, alreadySettled, noWinningTicketFound, unauthorized,
    insufficientFunds, arithmeticOverflow, invalidDeadline, notDrawn, notWinningTicket, ticketsSold,
    invalidAccount, alreadyInitialized, invalidTicketRange, checkpointExpired]

/-- The numbers run on from 6000. -/
def number (reason : Refusal) : Nat :=
  6000 + all.idxOf reason

def name : Refusal → String
  | malformedPayload => "MalformedPayload"
  | invalidCapacity => "InvalidCapacity"
  | capacityExceeded => "CapacityExceeded"
  | lotteryClosed => "LotteryClosed"
  | lotteryStillOpen => "LotteryStillOpen"
  | invalidAmount => "InvalidAmount"
  | alreadyDrawn => "AlreadyDrawn"
  | noTicketsSold => "NoTicketsSold"
  | alreadySettled => "AlreadySettled"
  | noWinningTicketFound => "NoWinningTicketFound"
  | unauthorized => "Unauthorized"
  | insufficientFunds => "InsufficientFunds"
  | arithmeticOverflow => "ArithmeticOverflow"
  | invalidDeadline => "InvalidDeadline"
  | notDrawn => "NotDrawn"
  | notWinningTicket => "NotWinningTicket"
  | ticketsSold => "TicketsSold"
  | invalidAccount => "InvalidAccount"
  | alreadyInitialized => "AlreadyInitialized"
  | invalidTicketRange => "InvalidTicketRange"
  | checkpointExpired => "CheckpointExpired"

def message : Refusal → String
  | malformedPayload => "Malformed account data or instruction payload"
  | invalidCapacity => "Lottery capacity must be greater than zero"
  | capacityExceeded => "Purchase would exceed the lottery capacity"
  | lotteryClosed => "Lottery no longer accepts purchases"
  | lotteryStillOpen => "Lottery deadline has not passed yet"
  | invalidAmount => "Ticket amount must be greater than zero"
  | alreadyDrawn => "Winning number has already been drawn"
  | noTicketsSold => "No tickets were sold for this lottery"
  | alreadySettled => "Lottery has already been settled"
  | noWinningTicketFound => "No ticket covers the winning number"
  | unauthorized => "Signer is not the lottery authority"
  | insufficientFunds => "Insufficient funds for transfer"
  | arithmeticOverflow => "Arithmetic overflow"
  | invalidDeadline => "Deadline slot must be in the future"
  | notDrawn => "Winning number has not been drawn yet"
  | notWinningTicket => "Ticket does not hold the winning number"
  | ticketsSold => "Lottery with sold tickets cannot be voided"
  | invalidAccount => "Account does not match the lottery"
  | alreadyInitialized => "Account is already initialized"
  | invalidTicketRange => "Ticket range is empty or overlaps another ticket"
  | checkpointExpired => "Draw checkpoint is no longer in the slot hash history"

theorem mem_all (reason : Refusal) : reason ∈ all := by
  cases reason <;> decide

end Refusal

end RangeLottery
