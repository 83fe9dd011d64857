import RangeLottery.Address.Known
import RangeLottery.Amount
import RangeLottery.Ledger.Token

/-!
The book: every account of the ledger, in a fixed order. An account that the book does not list is
an empty one of the system program. The changes that the system program and the token programs make
are functions on books that either give the next book or an error. Main statement: writing one
account changes that account and no other.
-/

namespace RangeLottery

structure Account where
  /-- The program that may change the account. -/
  owner : Key
  lamports : UInt64
  data : Bytes
  executable : Bool
  deriving DecidableEq, Repr

namespace Account

/-- An account that nobody has created. -/
def absent : Account :=
  ⟨Known.systemProgram, 0, [], false⟩

/-- The lamports that an account of `width` bytes has to hold. -/
def rent (width : Nat) : UInt64 :=
  UInt64.ofNat ((width + 128) * 6960)

def isRentExempt (a : Account) : Bool :=
  rent a.data.length ≤ a.lamports

/-- Whether the account holds the same as `b`. -/
def sameContents (a b : Account) : Bool :=
  a.owner = b.owner && a.lamports = b.lamports && a.data = b.data

end Account

/-- The accounts of the ledger, each at its key. -/
abbrev Book := List (Key × Account)

namespace Book

/-- The account at `key`. -/
def account : Book → Key → Account
  | [], _ => Account.absent
  | (k, a) :: rest, key => if k = key then a else account rest key

/-- The book with `a` at `key`. -/
def put : Book → Key → Account → Book
  | [], key, a => [(key, a)]
  | (k, b) :: rest, key, a => if k = key then (k, a) :: rest else (k, b) :: put rest key a

/-- The book with the account at `key` changed by `change`. -/
def modify (b : Book) (key : Key) (change : Account → Account) : Book :=
  b.put key (change (b.account key))

/-- The accounts of `after` that hold something else than in `before`. -/
def changes (before after : Book) : List (Key × Account) :=
  after.filter fun (key, a) => !(before.account key).sameContents a

theorem account_put (b : Book) (key other : Key) (a : Account) :
    (b.put key a).account other = if key = other then a else b.account other := by
  induction b with
  | nil => simp [put, account]
  | cons head rest ih =>
    obtain ⟨k, c⟩ := head
    by_cases here : k = key
    · subst here
      by_cases same : k = other <;> simp [put, account, same]
    · by_cases same : k = other
      · subst same
        have apart : ¬ key = k := fun e => here e.symm
        simp [put, account, here, apart]
      · simp [put, account, here, same, ih]

@[simp] theorem account_put_self (b : Book) (key : Key) (a : Account) :
    (b.put key a).account key = a := by
  simp [account_put]

theorem account_put_of_ne {b : Book} {key other : Key} {a : Account} (apart : key ≠ other) :
    (b.put key a).account other = b.account other := by
  simp [account_put, apart]

/-! ### The ledger's programs -/

/-- Turns the empty account at `target` into one of `owner` that holds `data`. The lamports come
from `payer`, which may be the same account, and those that were there stay. -/
def allocate (b : Book) (payer target : Key) (lamports : UInt64) (data : Bytes) (owner : Key) :
    Except LedgerError Book :=
  if (b.account target).data ≠ [] then .error .accountAlreadyInitialized
  else
    match Amount.sub? (b.account payer).lamports lamports with
    | none => .error .lackingLamports
    | some left =>
      let paid := b.modify payer fun a => { a with lamports := left }
      match Amount.add? (paid.account target).lamports lamports with
      | none => .error .arithmeticOverflow
      | some held => .ok (paid.modify target fun a => { a with owner, lamports := held, data })

/-- Takes `amount` tokens out of the token account at `key`. -/
def takeTokens (b : Book) (key : Key) (amount : UInt64) : Except LedgerError Book :=
  match TokenAccount.decode (b.account key).data with
  | .error error => .error error
  | .ok tokens =>
    match Amount.sub? tokens.amount amount with
    | none => .error .insufficientFunds
    | some left => .ok (b.modify key fun a => { a with data := TokenAccount.setAmount a.data left })

/-- Puts `amount` tokens into the token account at `key`. -/
def addTokens (b : Book) (key : Key) (amount : UInt64) : Except LedgerError Book :=
  match TokenAccount.decode (b.account key).data with
  | .error error => .error error
  | .ok tokens =>
    match Amount.add? tokens.amount amount with
    | none => .error .amountOverflow
    | some held => .ok (b.modify key fun a => { a with data := TokenAccount.setAmount a.data held })

/-- Moves `amount` tokens from one token account to another, which may be the same. -/
def transfer (b : Book) (source destination : Key) (amount : UInt64) : Except LedgerError Book :=
  match b.takeTokens source amount with
  | .error error => .error error
  | .ok taken => taken.addTokens destination amount

end Book

end RangeLottery
