import RangeLottery.Key

/-!
Calls: a request addressed to a program, with the accounts it names. The same account may be named
more than once, and the flags of an entry belong to that entry alone.
-/

namespace RangeLottery

/-- An account as a call names it. -/
structure Entry where
  key : Key
  writable : Bool
  signer : Bool
  deriving DecidableEq, Repr

namespace Entry

/-- An account that the call may change. -/
def mutable (key : Key) : Entry :=
  ⟨key, true, false⟩

/-- An account that the call may change and that signs it. -/
def mutableSigner (key : Key) : Entry :=
  ⟨key, true, true⟩

/-- An account that the call only reads. -/
def reading (key : Key) : Entry :=
  ⟨key, false, false⟩

/-- An account that only signs. -/
def signing (key : Key) : Entry :=
  ⟨key, false, true⟩

end Entry

structure Call where
  program : Key
  accounts : List Entry
  data : Bytes
  deriving DecidableEq, Repr

/-- A call that a program makes, with the seeds of the derived addresses that sign for it. -/
structure Invocation where
  call : Call
  seeds : List (List Bytes)
  deriving DecidableEq, Repr

end RangeLottery
