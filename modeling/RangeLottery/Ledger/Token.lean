import RangeLottery.Ledger.Fault

/-!
Token accounts and mints, as the token program lays them out. Of a token account only the mint, the
owner and the amount matter here, and of a mint only the decimals; the other fields have to be well
formed and are kept as they are when the amount changes.
-/

namespace RangeLottery

/-- What is left behind a field that may be absent: a mark of zero or one, and `width` bytes in
either case. -/
def Bytes.skipOptional? (width : Nat) (bytes : Bytes) : Option Bytes := do
  let (mark, bytes) ← Bytes.takeHalfWord? bytes
  let (_, rest) ← Bytes.take? width bytes
  if mark = 0 ∨ mark = 1 then some rest else none

structure TokenAccount where
  mint : Key
  /-- The wallet that the tokens belong to. -/
  owner : Key
  amount : UInt64
  deriving DecidableEq, Repr

namespace TokenAccount

/-- The length of a stored token account. -/
def width : Nat :=
  165

/-- The fields of a token account and its state, which is zero before it is initialized. -/
def parse? (bytes : Bytes) : Option (TokenAccount × UInt8) := do
  let (mint, bytes) ← Key.take? bytes
  let (owner, bytes) ← Key.take? bytes
  let (amount, bytes) ← Bytes.takeWord? bytes
  let bytes ← Bytes.skipOptional? 32 bytes
  let (state, bytes) ← Bytes.takeByte? bytes
  let bytes ← Bytes.skipOptional? 8 bytes
  let (_, bytes) ← Bytes.takeWord? bytes
  let rest ← Bytes.skipOptional? 32 bytes
  if rest = [] ∧ state ≤ 2 then some (⟨mint, owner, amount⟩, state) else none

def decode (bytes : Bytes) : Except LedgerError TokenAccount :=
  match parse? bytes with
  | none => .error .invalidAccountData
  | some (account, state) =>
    if state = 0 then .error .uninitializedAccount else .ok account

/-- The stored form of a token account that was just opened. -/
def encodeNew (mint owner : Key) : Bytes :=
  mint.bytes ++ owner.bytes ++ Bytes.ofWord 0 ++ List.replicate 36 0 ++ 1 :: List.replicate 56 0

/-- A stored token account with its amount replaced. -/
def setAmount (bytes : Bytes) (amount : UInt64) : Bytes :=
  bytes.take 64 ++ Bytes.ofWord amount ++ bytes.drop 72

end TokenAccount

structure Mint where
  decimals : UInt8
  deriving DecidableEq, Repr

namespace Mint

/-- The fields of a mint and whether it is initialized. -/
def parse? (bytes : Bytes) : Option (Mint × UInt8) := do
  let bytes ← Bytes.skipOptional? 32 bytes
  let (_, bytes) ← Bytes.takeWord? bytes
  let (decimals, bytes) ← Bytes.takeByte? bytes
  let (initialized, bytes) ← Bytes.takeByte? bytes
  let rest ← Bytes.skipOptional? 32 bytes
  if rest = [] ∧ initialized ≤ 1 then some (⟨decimals⟩, initialized) else none

def decode (bytes : Bytes) : Except LedgerError Mint :=
  match parse? bytes with
  | none => .error .invalidAccountData
  | some (mint, initialized) =>
    if initialized = 0 then .error .uninitializedAccount else .ok mint

end Mint

end RangeLottery
