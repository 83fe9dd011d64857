import RangeLottery.Ledger.Session

/-!
The checks that a step makes on its accounts before it does anything with them. Each account is
named by its place in the list, and a fault names the account by the part it plays.
-/

namespace RangeLottery.Check

/-! ### Reading the list -/

/-- The account at `place`. -/
def entry (entries : List Entry) (place : Nat) (role : Role) : Except Fault Entry :=
  entries[place]?.elim (.error (.on role (.violation .notEnoughAccounts))) .ok

/-- The account at `place`, which the step may still have to open. -/
def pending (entries : List Entry) (place : Nat) : Except Fault Entry :=
  entries[place]?.elim (.error (.bare (.violation .notEnoughAccounts))) .ok

/-- The account at `place`, which signs the step. -/
def signer (entries : List Entry) (place : Nat) (role : Role) : Except Fault Entry := do
  let e ← entry entries place role
  if e.signer then return e else throw (.on role (.violation .notSigner))

/-- The program at `place`, which has to be `expected`. -/
def program (b : Book) (entries : List Entry) (place : Nat) (role : Role) (expected : Key) :
    Except Fault Unit := do
  let e ← entry entries place role
  if e.key ≠ expected then
    throw (.mismatched role (.violation .wrongProgram) e.key expected)
  else if (b.account e.key).executable then return ()
  else throw (.on role (.violation .notExecutable))

/-- What the token program keeps in the account at `key`. -/
def decoded {α : Type} (decode : Bytes → Except LedgerError α) (b : Book) (role : Role)
    (key : Key) : Except Fault α :=
  let a := b.account key
  if a.owner = Known.systemProgram ∧ a.lamports = 0 then
    .error (.on role (.violation .notInitialized))
  else if a.owner ≠ Known.tokenProgram then
    .error (.mismatched role (.violation .ownedByWrongProgram) a.owner Known.tokenProgram)
  else (decode a.data).mapError fun error => .on role (.ledger error)

def tokenAccount (b : Book) (role : Role) (key : Key) : Except Fault TokenAccount :=
  decoded TokenAccount.decode b role key

def mint (b : Book) (role : Role) (key : Key) : Except Fault Mint :=
  decoded Mint.decode b role key

/-! ### Conditions -/

/-- Accepts what `holds` and ends in `fault` otherwise. -/
def require (holds : Bool) (fault : Fault) : Except Fault Unit :=
  if holds then .ok () else .error fault

/-- Accepts `expected` in the place of `actual` and no other key. -/
def same (role : Role) (cause : Cause) (actual expected : Key) : Except Fault Unit :=
  require (actual = expected) (.mismatched role cause actual expected)

def writable (role : Role) (e : Entry) : Except Fault Unit :=
  require e.writable (.on role (.violation .notWritable))

/-- Accepts an account without data. -/
def vacant (b : Book) (role : Role) (e : Entry) : Except Fault Unit :=
  require (b.account e.key).data.isEmpty (.on role (.refusal .alreadyInitialized))

/-- Accepts an account of the lottery program. -/
def recorded (b : Book) (role : Role) (e : Entry) : Except Fault Unit :=
  same role (.violation .wrongOwner) (b.account e.key).owner Known.lotteryProgram

/-- Accepts a key that agrees with the record. -/
def agrees (actual expected : Key) : Except Fault Unit :=
  require (actual = expected) (.unrecorded actual expected)

/-- Accepts the token account that `wallet` keeps for `mint`, at its associated address. -/
def associated (b : Book) (role : Role) (e : Entry) (wallet mint : Key) : Except Fault Unit := do
  let tokens ← tokenAccount b role e.key
  same role (.violation .wrongMint) tokens.mint mint
  same role (.violation .wrongTokenOwner) tokens.owner wallet
  require (e.key = Address.associated wallet mint) (.on role (.violation .notAssociatedAccount))
  writable role e
  require (b.account e.key).isRentExempt (.on role (.violation .notRentExempt))

end RangeLottery.Check

namespace RangeLottery.Session

/-- Opens the token account that `wallet` keeps for `mint` if `e` is nobody's account yet, and then
accepts `e` only as that token account. -/
def ensureAssociated (role : Role) (e : Entry) (payer wallet mint : Key) : Session Unit := do
  let before ← book
  if (before.account e.key).owner = Known.systemProgram then
    openAssociated payer e.key wallet mint
  let after ← book
  pass (Check.associated after role e wallet mint)

/-- The lottery recorded at `key`. -/
def readLottery (key : Key) : Session Lottery := do
  let b ← book
  accept (Lottery.decode (b.account key).data)

/-- The ticket recorded at `key`. -/
def readTicket (key : Key) : Session Ticket := do
  let b ← book
  accept (Ticket.decode (b.account key).data)

/-- Records `l` at `key`. -/
def saveLottery (key : Key) (l : Lottery) : Session Unit := do
  let b ← book
  let (stored, data) := l.store (b.account key).data
  accept stored
  write key data

/-- Records `t` at `key`. -/
def saveTicket (key : Key) (t : Ticket) : Session Unit := do
  let b ← book
  let (stored, data) := t.store (b.account key).data
  accept stored
  write key data

end RangeLottery.Session
