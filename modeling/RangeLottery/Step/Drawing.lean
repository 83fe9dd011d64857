import RangeLottery.Step.Check

/-!
Drawing the winning number. Any signer may ask for the draw: the hash it uses is fixed by the
deadline of the lottery and not by the slot in which the draw is asked for.
-/

namespace RangeLottery.Drawing

open Session

structure Accounts where
  lottery : Entry
  caller : Entry
  slotHashes : Entry
  deriving DecidableEq, Repr

def load (entries : List Entry) : Except Fault Accounts := do
  let lottery ← Check.entry entries 0 .lottery
  let caller ← Check.signer entries 1 .caller
  let slotHashes ← Check.entry entries 2 .slotHashes
  return { lottery, caller, slotHashes }

def check (b : Book) (a : Accounts) : Except Fault Unit := do
  Check.writable .lottery a.lottery
  Check.recorded b .lottery a.lottery
  Check.same .slotHashes (.refusal .invalidAccount) a.slotHashes.key Known.slotHashes

def run (slot : UInt64) (entries : List Entry) : Session Unit := do
  let a ← pass (load entries)
  pass (check (← book) a)
  let l ← readLottery a.lottery.key
  accept (l.readyToDraw slot)
  let found := SlotHistory.checkpoint ((← book).account a.slotHashes.key).data l.deadline
  remarkAll (Remark.onCheckpoint l.deadline found)
  let sample ← accept found
  let (drawn, after) := l.draw a.lottery.key sample slot
  remarkAll (Remark.onDraw sample.hash a.lottery.key l.sold drawn)
  let number ← accept drawn
  saveLottery a.lottery.key after
  remark (.drew a.lottery.key number sample.slot)
  announce (.drawn a.lottery.key number sample.slot after.sold)

end RangeLottery.Drawing
