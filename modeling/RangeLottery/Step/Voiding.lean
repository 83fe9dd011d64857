import RangeLottery.Step.Check

/-!
Voiding a lottery that reached its deadline without a sale.
-/

namespace RangeLottery.Voiding

open Session

structure Accounts where
  lottery : Entry
  authority : Entry
  deriving DecidableEq, Repr

def load (entries : List Entry) : Except Fault Accounts := do
  let lottery ← Check.entry entries 0 .lottery
  let authority ← Check.signer entries 1 .authority
  return { lottery, authority }

def check (b : Book) (a : Accounts) : Except Fault Unit := do
  Check.writable .lottery a.lottery
  Check.recorded b .lottery a.lottery

def run (slot : UInt64) (entries : List Entry) : Session Unit := do
  let a ← pass (load entries)
  pass (check (← book) a)
  let l ← readLottery a.lottery.key
  accept (l.authorize a.authority.key)
  let (closed, after) := l.void slot
  accept closed
  saveLottery a.lottery.key after
  remark (.voided a.lottery.key)
  announce (.voided a.lottery.key after.deadline)

end RangeLottery.Voiding
