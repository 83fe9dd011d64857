import RangeLottery.Record.Lottery

/-!
The roster of one lottery: its tickets, each with the account it lives at, in the order of their
ranges. The ranges never overlap, so an insertion is judged by the two neighbours alone and the
holder of a number is the last ticket that starts at or below it.
-/

namespace RangeLottery

/-- A ticket and the account it lives at. -/
structure Holding where
  id : Key
  ticket : Ticket
  deriving DecidableEq, Repr

/-- The tickets of one lottery, by start. -/
structure Roster where
  /-- The account of the lottery. -/
  lottery : Key
  holdings : List Holding
  deriving DecidableEq, Repr

namespace Roster

/-- The roster of a lottery that has sold nothing. -/
def empty (lottery : Key) : Roster :=
  ⟨lottery, []⟩

/-- The last holding that starts at or below `number`. -/
def below? (r : Roster) (number : UInt64) : Option Holding :=
  (r.holdings.takeWhile fun h => h.ticket.start ≤ number).getLast?

/-- The first holding that starts at or above `number`. -/
def above? (r : Roster) (number : UInt64) : Option Holding :=
  (r.holdings.dropWhile fun h => h.ticket.start < number).head?

/-- Enters the ticket at `id`, unless it belongs to another lottery, is empty, or overlaps its
neighbours. -/
def insert (r : Roster) (id : Key) (ticket : Ticket) : Except Refusal Unit × Roster :=
  if ticket.lottery ≠ r.lottery then (.error .invalidAccount, r)
  else if ticket.stop ≤ ticket.start then (.error .invalidTicketRange, r)
  else if (r.below? ticket.start).any fun h => ticket.start < h.ticket.stop then
    (.error .invalidTicketRange, r)
  else if (r.above? ticket.start).any fun h => h.ticket.start < ticket.stop then
    (.error .invalidTicketRange, r)
  else
    let before := r.holdings.takeWhile fun h => h.ticket.start < ticket.start
    let after := r.holdings.dropWhile fun h => h.ticket.start < ticket.start
    (.ok (), { r with holdings := before ++ ⟨id, ticket⟩ :: after })

/-- Enters every holding in turn, up to the first refusal. -/
def insertAll (r : Roster) : List Holding → Except Refusal Roster
  | [] => .ok r
  | h :: rest =>
    match r.insert h.id h.ticket with
    | (.error reason, _) => .error reason
    | (.ok (), entered) => entered.insertAll rest

/-- The roster of `holdings`, which may come in any order. -/
def ofHoldings (lottery : Key) (holdings : List Holding) : Except Refusal Roster :=
  (empty lottery).insertAll holdings

/-- The holding that contains `number`. -/
def find? (r : Roster) (number : UInt64) : Option Holding :=
  (r.below? number).filter fun h => h.ticket.contains number

/-- The holding that contains the winning number of `l`. -/
def winningHolding (r : Roster) (l : Lottery) : Except Refusal Holding :=
  match l.winningNumber? with
  | none => .error .notDrawn
  | some number => (r.find? number).elim (.error .noWinningTicketFound) .ok

/-- Whether the ranges follow one another without a gap from `next` to `sold`. -/
def tilesFrom (sold : UInt64) : List Holding → UInt64 → Bool
  | [], next => next == sold
  | h :: rest, next => h.ticket.start == next && tilesFrom sold rest h.ticket.stop

/-- Whether the ranges follow one another without a gap from zero to `sold`. -/
def tiles (r : Roster) (sold : UInt64) : Bool :=
  tilesFrom sold r.holdings 0

end Roster

end RangeLottery
