import RangeLottery.Step.Check

/-!
Opening a lottery. The token accounts for the purchases and for the fee are opened if they are
missing, and the lottery is recorded in a new account.
-/

namespace RangeLottery.Opening

open Session

structure Accounts where
  lottery : Entry
  authority : Entry
  feeCollector : Entry
  custody : Entry
  vault : Entry
  feeAccount : Entry
  mint : Entry
  deriving DecidableEq, Repr

def load (b : Book) (entries : List Entry) : Except Fault Accounts := do
  let lottery ← Check.signer entries 0 .lottery
  let authority ← Check.signer entries 1 .authority
  let feeCollector ← Check.entry entries 2 .feeCollector
  let custody ← Check.entry entries 3 .custody
  let vault ← Check.pending entries 4
  let feeAccount ← Check.pending entries 5
  let mint ← Check.entry entries 6 .mint
  let _ ← Check.mint b .mint mint.key
  Check.program b entries 7 .tokenProgram Known.tokenProgram
  Check.program b entries 8 .associatedTokenProgram Known.associatedTokenProgram
  Check.program b entries 9 .systemProgram Known.systemProgram
  return { lottery, authority, feeCollector, custody, vault, feeAccount, mint }

def check (b : Book) (a : Accounts) : Except Fault Unit := do
  Check.writable .lottery a.lottery
  Check.vacant b .lottery a.lottery
  Check.writable .authority a.authority
  Check.same .feeCollector (.refusal .invalidAccount) a.feeCollector.key Known.feeCollector
  Check.same .custody (.violation .wrongSeeds) a.custody.key
    (Address.custody a.lottery.key).address

/-- Opens a lottery of `capacity` numbers that sells until `deadline`. -/
def run (slot : UInt64) (entries : List Entry) (capacity deadline : UInt64) : Session Unit := do
  let a ← pass (load (← book) entries)
  ensureAssociated .vault a.vault a.authority.key a.custody.key a.mint.key
  ensureAssociated .feeAccount a.feeAccount a.authority.key a.feeCollector.key a.mint.key
  pass (check (← book) a)
  let l ← accept (Lottery.launch a.authority.key a.vault.key a.feeAccount.key a.mint.key
    capacity deadline slot)
  remark .creatingLottery
  createRecord a.authority.key a.lottery.key Lottery.width
  saveLottery a.lottery.key l
  remark (.launched a.lottery.key capacity deadline)
  announce (.launched a.lottery.key a.authority.key capacity deadline a.mint.key)

end RangeLottery.Opening
