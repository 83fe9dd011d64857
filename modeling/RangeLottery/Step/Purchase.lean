import RangeLottery.Step.Check

/-!
Buying numbers. The buyer pays one token for each number into the vault of the lottery and has the
range recorded as a ticket in a new account.
-/

namespace RangeLottery.Purchase

open Session

structure Accounts where
  lottery : Entry
  ticket : Entry
  buyer : Entry
  vault : Entry
  /-- The token account that the buyer pays from. -/
  purse : Entry
  purseTokens : TokenAccount
  mint : Entry
  decimals : UInt8
  deriving DecidableEq, Repr

def load (b : Book) (entries : List Entry) : Except Fault Accounts := do
  let lottery ← Check.entry entries 0 .lottery
  let ticket ← Check.signer entries 1 .ticket
  let buyer ← Check.signer entries 2 .buyer
  let vault ← Check.entry entries 3 .vault
  let _ ← Check.tokenAccount b .vault vault.key
  let purse ← Check.entry entries 4 .purse
  let purseTokens ← Check.tokenAccount b .purse purse.key
  let mint ← Check.entry entries 5 .mint
  let mintState ← Check.mint b .mint mint.key
  Check.program b entries 6 .tokenProgram Known.tokenProgram
  Check.program b entries 7 .systemProgram Known.systemProgram
  return { lottery, ticket, buyer, vault, purse, purseTokens, mint, decimals := mintState.decimals }

def check (b : Book) (a : Accounts) : Except Fault Unit := do
  Check.writable .lottery a.lottery
  Check.recorded b .lottery a.lottery
  Check.writable .ticket a.ticket
  Check.vacant b .ticket a.ticket
  Check.writable .buyer a.buyer
  Check.writable .vault a.vault
  Check.writable .purse a.purse
  Check.require (a.purseTokens.mint = a.mint.key) (.on .purse (.refusal .invalidAccount))
  Check.require (a.purseTokens.owner = a.buyer.key) (.bare (.violation .wrongTokenOwner))

/-- Buys the next `amount` numbers. -/
def run (slot : UInt64) (entries : List Entry) (amount : UInt64) : Session Unit := do
  let a ← pass (load (← book) entries)
  pass (check (← book) a)
  let l ← readLottery a.lottery.key
  pass (Check.agrees a.vault.key l.vault)
  pass (Check.agrees a.mint.key l.mint)
  let (issued, sold) := l.issue a.lottery.key a.buyer.key amount slot
  let ticket ← accept issued
  if a.purseTokens.amount < amount then
    remark (.shortOfTokens a.purseTokens.amount amount)
    throw (.ofStep .insufficientFunds)
  remark .creatingTicket
  createRecord a.buyer.key a.ticket.key Ticket.width
  transfer a.purse.key a.mint.key a.vault.key a.buyer.key amount a.decimals []
  saveTicket a.ticket.key ticket
  saveLottery a.lottery.key sold
  remark (.ticketSold a.ticket.key ticket.start ticket.stop)
  announce (.bought a.lottery.key a.ticket.key a.buyer.key ticket.start ticket.stop ticket.size
    sold.sold)

end RangeLottery.Purchase
