import RangeLottery.Request
import RangeLottery.Roster
import RangeLottery.Text.Base58

/-!
Remarks: what the program writes to the log while it works. A remark is data, and one function gives
its line. Some results are remarked on wherever they arise, and the remark follows from the result
and what it was asked of.
-/

namespace RangeLottery

inductive Remark where
  | received (request : Request)
  | creatingLottery
  | launched (lottery : Key) (capacity deadline : UInt64)
  | shortOfTokens (held requested : UInt64)
  | creatingTicket
  | ticketSold (ticket : Key) (start stop : UInt64)
  | checkpointGone (deadline : UInt64)
  | mixed (value : Nat) (sold : UInt64)
  | unheld (lottery : Key) (number : UInt64)
  | drew (lottery : Key) (number slot : UInt64)
  | payingWinner (amount pool : UInt64)
  | payingFee (amount : UInt64)
  | voided (lottery : Key)
  deriving DecidableEq, Repr

namespace Remark

def line : Remark → String
  | received request => "Instruction: " ++ request.name
  | creatingLottery => "Create lottery account"
  | launched lottery capacity deadline =>
    s!"Lottery {lottery.text} initialized: max_amount {capacity}, ended_slot {deadline}"
  | shortOfTokens held requested => s!"Buyer holds {held} of {requested} requested"
  | creatingTicket => "Create ticket account"
  | ticketSold ticket start stop => s!"Ticket {ticket.text} holds [{start}, {stop})"
  | checkpointGone deadline => s!"Checkpoint after slot {deadline} left the slot hash history"
  | mixed value sold => s!"Mixed randomness {value} over {sold} tickets"
  | unheld lottery number => s!"Partition broken: no ticket of {lottery.text} holds {number}"
  | drew lottery number slot => s!"Lottery {lottery.text} drew {number} from slot {slot}"
  | payingWinner amount pool => s!"Pay winner {amount} of {pool}"
  | payingFee amount => s!"Pay fee {amount}"
  | voided lottery => s!"Lottery {lottery.text} voided"

/-- On the search for the checkpoint of `deadline`. -/
def onCheckpoint (deadline : UInt64) : Except Refusal SlotHash → List Remark
  | .error .checkpointExpired => [checkpointGone deadline]
  | _ => []

/-- On a draw from `hash` among the `sold` numbers of `lottery`. -/
def onDraw (hash lottery : Key) (sold : UInt64) : Except Refusal UInt64 → List Remark
  | .ok _ => [mixed (WinningNumber.mix hash lottery) sold]
  | .error _ => []

/-- On the search for the holder of the winning number of `l`, a record of `lottery`. -/
def onWinner (lottery : Key) (l : Lottery) : Except Refusal Holding → List Remark
  | .error .noWinningTicketFound => [unheld lottery l.number]
  | _ => []

end Remark

end RangeLottery
