import RangeLottery.Key
import RangeLottery.Refusal
import RangeLottery.Text.Base58

/-!
Faults: why a step of the ledger failed. The cause is a refusal of the lottery, a condition on an
account that does not hold, or an error of the ledger's own. A fault also says where it arose, and
which two keys differed if it came from comparing keys.
-/

namespace RangeLottery

/-- The part that an account plays in a step. -/
inductive Role where
  | lottery
  | ticket
  | authority
  | feeCollector
  | custody
  | vault
  | feeAccount
  | buyer
  | purse
  | winner
  | prizeAccount
  | caller
  | slotHashes
  | mint
  | tokenProgram
  | associatedTokenProgram
  | systemProgram
  deriving DecidableEq, Repr

def Role.name : Role → String
  | lottery => "lottery"
  | ticket => "ticket"
  | authority => "authority"
  | feeCollector => "fee_authority"
  | custody => "custody"
  | vault => "custody_ata"
  | feeAccount => "fee_ata"
  | buyer => "buyer"
  | purse => "buyer_token_account"
  | winner => "winner"
  | prizeAccount => "winner_ata"
  | caller => "caller"
  | slotHashes => "slot_hashes"
  | mint => "token_mint"
  | tokenProgram => "token_program"
  | associatedTokenProgram => "associated_token_program"
  | systemProgram => "system_program"

/-! ### Conditions on accounts -/

/-- A condition on an account that does not hold. -/
inductive Violation where
  | notWritable
  | wrongOwner
  | notRentExempt
  | wrongSeeds
  | notAssociated
  | wrongMint
  | wrongTokenOwner
  | notEnoughAccounts
  | ownedByWrongProgram
  | wrongProgram
  | notExecutable
  | notSigner
  | notInitialized
  | notAssociatedAccount
  | wrongProgramCalled
  deriving DecidableEq, Repr

namespace Violation

def number : Violation → Nat
  | notWritable => 2000
  | wrongOwner => 2004
  | notRentExempt => 2005
  | wrongSeeds => 2006
  | notAssociated => 2009
  | wrongMint => 2014
  | wrongTokenOwner => 2015
  | notEnoughAccounts => 3005
  | ownedByWrongProgram => 3007
  | wrongProgram => 3008
  | notExecutable => 3009
  | notSigner => 3010
  | notInitialized => 3012
  | notAssociatedAccount => 3014
  | wrongProgramCalled => 4100

def name : Violation → String
  | notWritable => "ConstraintMut"
  | wrongOwner => "ConstraintOwner"
  | notRentExempt => "ConstraintRentExempt"
  | wrongSeeds => "ConstraintSeeds"
  | notAssociated => "ConstraintAssociated"
  | wrongMint => "ConstraintTokenMint"
  | wrongTokenOwner => "ConstraintTokenOwner"
  | notEnoughAccounts => "AccountNotEnoughKeys"
  | ownedByWrongProgram => "AccountOwnedByWrongProgram"
  | wrongProgram => "InvalidProgramId"
  | notExecutable => "InvalidProgramExecutable"
  | notSigner => "AccountNotSigner"
  | notInitialized => "AccountNotInitialized"
  | notAssociatedAccount => "AccountNotAssociatedTokenAccount"
  | wrongProgramCalled => "DeclaredProgramIdMismatch"

def message : Violation → String
  | notWritable => "A mut constraint was violated"
  | wrongOwner => "An owner constraint was violated"
  | notRentExempt => "A rent exemption constraint was violated"
  | wrongSeeds => "A seeds constraint was violated"
  | notAssociated => "An associated constraint was violated"
  | wrongMint => "A token mint constraint was violated"
  | wrongTokenOwner => "A token owner constraint was violated"
  | notEnoughAccounts => "Not enough account keys given to the instruction"
  | ownedByWrongProgram => "The given account is owned by a different program than expected"
  | wrongProgram => "Program ID was not as expected"
  | notExecutable => "Program account is not executable"
  | notSigner => "The given account did not sign"
  | notInitialized => "The program expected this account to be already initialized"
  | notAssociatedAccount => "The given account is not the associated token account"
  | wrongProgramCalled => "The declared program id does not match the actual program id"

end Violation

/-! ### Errors of the ledger -/

/-- An error in the ledger's own form: one of its own, or a number that a program chose. -/
inductive LedgerError where
  | custom (number : Nat)
  | invalidAccountData
  | insufficientFunds
  | accountAlreadyInitialized
  | uninitializedAccount
  | notEnoughAccountKeys
  | arithmeticOverflow
  deriving DecidableEq, Repr

namespace LedgerError

/-- The payer of a new account has too few lamports. -/
def lackingLamports : LedgerError :=
  custom 1

/-- The amount of a token account would pass 64 bits. -/
def amountOverflow : LedgerError :=
  custom 14

/-- The ledger's own errors stand in the upper half of a 64-bit number. -/
def number : LedgerError → Nat
  | custom number => number
  | invalidAccountData => 4 <<< 32
  | insufficientFunds => 6 <<< 32
  | accountAlreadyInitialized => 9 <<< 32
  | uninitializedAccount => 10 <<< 32
  | notEnoughAccountKeys => 11 <<< 32
  | arithmeticOverflow => 24 <<< 32

def name : LedgerError → String
  | custom number => s!"Custom({number})"
  | invalidAccountData => "InvalidAccountData"
  | insufficientFunds => "InsufficientFunds"
  | accountAlreadyInitialized => "AccountAlreadyInitialized"
  | uninitializedAccount => "UninitializedAccount"
  | notEnoughAccountKeys => "NotEnoughAccountKeys"
  | arithmeticOverflow => "ArithmeticOverflow"

def message : LedgerError → String
  | custom number =>
    "Custom program error: 0x" ++ String.ofList (Nat.toDigits 16 number)
  | invalidAccountData => "An account's data contents was invalid"
  | insufficientFunds => "An account's balance was too small to complete the instruction"
  | accountAlreadyInitialized =>
    "An initialize instruction was sent to an account that has already been initialized"
  | uninitializedAccount => "An attempt to operate on an account that hasn't been initialized"
  | notEnoughAccountKeys => "The instruction expected additional account keys"
  | arithmeticOverflow => "Program arithmetic overflowed"

end LedgerError

/-! ### Faults -/

inductive Cause where
  | refusal (reason : Refusal)
  | violation (condition : Violation)
  | ledger (error : LedgerError)
  deriving DecidableEq, Repr

namespace Cause

def number : Cause → Nat
  | refusal reason => reason.number
  | violation condition => condition.number
  | ledger error => error.number

def name : Cause → String
  | refusal reason => reason.name
  | violation condition => condition.name
  | ledger error => error.name

def message : Cause → String
  | refusal reason => reason.message
  | violation condition => condition.message
  | ledger error => error.message

/-- The cause in the ledger's own form: what is not an error of the ledger keeps its number only. -/
def toLedgerError : Cause → LedgerError
  | refusal reason => .custom reason.number
  | violation condition => .custom condition.number
  | ledger error => error

/-- The word that a report of the cause begins with. -/
def reportName : Cause → String
  | ledger _ => "ProgramError"
  | refusal _ | violation _ => "AnchorError"

end Cause

/-- Where a fault arose. -/
inductive Origin where
  | unknown
  | account (role : Role)
  /-- A check that the step itself makes. -/
  | step
  deriving DecidableEq, Repr

/-- Two keys that should have been equal. -/
structure Mismatch where
  actual : Key
  expected : Key
  deriving DecidableEq, Repr

structure Fault where
  cause : Cause
  origin : Origin
  mismatch : Option Mismatch
  deriving DecidableEq, Repr

namespace Fault

/-- A fault that no account is named for. -/
def bare (cause : Cause) : Fault :=
  ⟨cause, .unknown, none⟩

/-- A fault in the account in `role`. -/
def on (role : Role) (cause : Cause) : Fault :=
  ⟨cause, .account role, none⟩

/-- A fault in the account in `role`, which has `actual` where `expected` should be. -/
def mismatched (role : Role) (cause : Cause) (actual expected : Key) : Fault :=
  ⟨cause, .account role, some ⟨actual, expected⟩⟩

/-- A refusal that the step itself decides on. -/
def ofStep (reason : Refusal) : Fault :=
  ⟨.refusal reason, .step, none⟩

/-- A key that does not agree with the record. -/
def unrecorded (actual expected : Key) : Fault :=
  ⟨.refusal .invalidAccount, .step, some ⟨actual, expected⟩⟩

/-- The role of the account that the fault is about, if it names one. -/
def role? (f : Fault) : Option Role :=
  match f.origin with
  | .account role => some role
  | .unknown | .step => none

/-! ### Report -/

/-- How a report of the fault begins, unless it arose in a check of the step. -/
def heading? (f : Fault) : Option String :=
  match f.origin with
  | .account role => some s!"{f.cause.reportName} caused by account: {role.name}."
  | .unknown => some s!"{f.cause.reportName} occurred."
  | .step => none

/-- The lines that report the fault. -/
def report (f : Fault) : List String :=
  let cause := f.heading?.map fun heading =>
    s!"{heading} Error Code: {f.cause.name}. Error Number: {f.cause.number}. "
      ++ s!"Error Message: {f.cause.message}."
  let keys := f.mismatch.map fun keys =>
    ["Left:", keys.actual.text, "Right:", keys.expected.text]
  cause.toList ++ keys.getD []

end Fault

end RangeLottery
