import RangeLottery.Step.Check

/-!
Settling a lottery. The holder of the winning number and the collector of the fee are paid out of
the vault, which the custody address of the lottery signs for.
-/

namespace RangeLottery.Settlement

open Session

structure Accounts where
  lottery : Entry
  authority : Entry
  custody : Entry
  vault : Entry
  vaultTokens : TokenAccount
  feeAccount : Entry
  feeTokens : TokenAccount
  /-- The token account that the winner is paid to. -/
  prizeAccount : Entry
  ticket : Entry
  winner : Entry
  mint : Entry
  decimals : UInt8
  deriving DecidableEq, Repr

def load (b : Book) (entries : List Entry) : Except Fault Accounts := do
  let lottery ← Check.entry entries 0 .lottery
  let authority ← Check.signer entries 1 .authority
  let custody ← Check.entry entries 2 .custody
  let vault ← Check.entry entries 3 .vault
  let vaultTokens ← Check.tokenAccount b .vault vault.key
  let feeAccount ← Check.entry entries 4 .feeAccount
  let feeTokens ← Check.tokenAccount b .feeAccount feeAccount.key
  let prizeAccount ← Check.pending entries 5
  let ticket ← Check.entry entries 6 .ticket
  let winner ← Check.entry entries 7 .winner
  let mint ← Check.entry entries 8 .mint
  let mintState ← Check.mint b .mint mint.key
  Check.program b entries 9 .tokenProgram Known.tokenProgram
  Check.program b entries 10 .associatedTokenProgram Known.associatedTokenProgram
  Check.program b entries 11 .systemProgram Known.systemProgram
  return {
    lottery, authority, custody, vault, vaultTokens, feeAccount, feeTokens, prizeAccount, ticket,
    winner, mint, decimals := mintState.decimals }

def check (b : Book) (a : Accounts) : Except Fault Unit := do
  Check.writable .lottery a.lottery
  Check.recorded b .lottery a.lottery
  Check.writable .authority a.authority
  Check.same .custody (.violation .wrongSeeds) a.custody.key
    (Address.custody a.lottery.key).address
  Check.same .vault (.violation .wrongTokenOwner) a.vaultTokens.owner a.custody.key
  Check.same .vault (.violation .notAssociated) a.vault.key
    (Address.associated a.custody.key a.mint.key)
  Check.writable .vault a.vault
  Check.writable .feeAccount a.feeAccount
  Check.require (a.feeTokens.mint = a.mint.key) (.bare (.violation .wrongMint))
  Check.recorded b .ticket a.ticket

/-- The seeds that sign for the custody address of `lottery`. -/
def custodySeeds (lottery : Key) : List Bytes :=
  [Address.custodyLabel, lottery.bytes, [(Address.custody lottery).bump]]

theorem digest_custodySeeds (lottery : Key) :
    Address.digest (custodySeeds lottery) Known.lotteryProgram = (Address.custody lottery).address :=
  Address.candidate_derive [Address.custodyLabel, lottery.bytes] Known.lotteryProgram

def run (entries : List Entry) : Session Unit := do
  let a ← pass (load (← book) entries)
  ensureAssociated .prizeAccount a.prizeAccount a.authority.key a.winner.key a.mint.key
  pass (check (← book) a)
  let l ← readLottery a.lottery.key
  accept (l.authorize a.authority.key)
  pass (Check.agrees a.vault.key l.vault)
  pass (Check.agrees a.feeAccount.key l.feeAccount)
  pass (Check.agrees a.mint.key l.mint)
  let ticket ← readTicket a.ticket.key
  pass (Check.agrees a.winner.key ticket.buyer)
  let pool := a.vaultTokens.amount
  let (divided, settled) := l.settle a.lottery.key ticket pool
  let payout ← accept divided
  let seeds := [custodySeeds a.lottery.key]
  remark (.payingWinner payout.winner pool)
  transfer a.vault.key a.mint.key a.prizeAccount.key a.custody.key payout.winner a.decimals seeds
  remark (.payingFee payout.fee)
  transfer a.vault.key a.mint.key a.feeAccount.key a.custody.key payout.fee a.decimals seeds
  saveLottery a.lottery.key settled
  let total ← accept payout.total
  announce (.settled a.lottery.key a.ticket.key a.winner.key total payout.winner payout.fee)

end RangeLottery.Settlement
