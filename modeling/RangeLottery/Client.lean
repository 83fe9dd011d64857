import RangeLottery.Address.Derived
import RangeLottery.Ledger.Call
import RangeLottery.Record.Lottery
import RangeLottery.Request

/-!
The calls that a client makes. Each lists the accounts in the order in which the program reads them,
with no more rights than it needs.
-/

namespace RangeLottery.Client

/-- The call that opens a lottery at `lottery`. -/
def launch (program lottery authority mint : Key) (capacity deadline : UInt64) : Call :=
  let custody := (Address.custodyUnder program lottery).address
  { program
    accounts := [
      Entry.mutableSigner lottery,
      Entry.mutableSigner authority,
      Entry.reading Known.feeCollector,
      Entry.reading custody,
      Entry.mutable (Address.associated custody mint),
      Entry.mutable (Address.associated Known.feeCollector mint),
      Entry.reading mint,
      Entry.reading Known.tokenProgram,
      Entry.reading Known.associatedTokenProgram,
      Entry.reading Known.systemProgram]
    data := (Request.launch capacity deadline).encode }

/-- The call that buys `amount` numbers of `l`, recorded at `lottery`. -/
def buy (program lottery : Key) (l : Lottery) (ticket buyer purse : Key) (amount : UInt64) : Call :=
  { program
    accounts := [
      Entry.mutable lottery,
      Entry.mutableSigner ticket,
      Entry.mutableSigner buyer,
      Entry.mutable l.vault,
      Entry.mutable purse,
      Entry.reading l.mint,
      Entry.reading Known.tokenProgram,
      Entry.reading Known.systemProgram]
    data := (Request.buy amount).encode }

/-- The call that draws the number of the lottery at `lottery`. -/
def draw (program lottery caller : Key) : Call :=
  { program
    accounts := [
      Entry.mutable lottery,
      Entry.signing caller,
      Entry.reading Known.slotHashes]
    data := Request.draw.encode }

/-- The call that pays `winner` for the ticket at `ticket` of `l`, recorded at `lottery`. -/
def settle (program lottery : Key) (l : Lottery) (authority ticket winner : Key) : Call :=
  { program
    accounts := [
      Entry.mutable lottery,
      Entry.mutableSigner authority,
      Entry.reading (Address.custodyUnder program lottery).address,
      Entry.mutable l.vault,
      Entry.mutable l.feeAccount,
      Entry.mutable (Address.associated winner l.mint),
      Entry.reading ticket,
      Entry.reading winner,
      Entry.reading l.mint,
      Entry.reading Known.tokenProgram,
      Entry.reading Known.associatedTokenProgram,
      Entry.reading Known.systemProgram]
    data := Request.settle.encode }

/-- The call that voids the lottery at `lottery`. -/
def void (program lottery authority : Key) : Call :=
  { program
    accounts := [Entry.mutable lottery, Entry.signing authority]
    data := Request.void.encode }

end RangeLottery.Client
