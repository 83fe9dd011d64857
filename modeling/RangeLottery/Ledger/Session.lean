import RangeLottery.Event
import RangeLottery.Ledger.Book
import RangeLottery.Ledger.Call
import RangeLottery.Address.Derived
import RangeLottery.Remark

/-!
Sessions: what a program does within one step. A session works on a copy of the book and keeps what
it remarked, announced and asked of other programs, also when it ends in a fault. A call to another program is
recorded before it is carried out. Main statements: a session of two parts succeeds when both do, and
ends in a fault when the first does or the second does after it.
-/

namespace RangeLottery

/-- What a step has done so far. -/
structure Progress where
  book : Book
  remarks : List Remark
  events : List Event
  invocations : List Invocation
  deriving DecidableEq, Repr

/-- Nothing done yet on `book`. -/
def Progress.start (book : Book) : Progress :=
  ⟨book, [], [], []⟩

abbrev Session := ExceptT Fault (StateM Progress)

namespace Session

/-- What comes of a session that starts from `p`: its answer or fault, and all it did. -/
def runOn {α : Type} (m : Session α) (p : Progress) : Except Fault α × Progress :=
  StateT.run (ExceptT.run m) p

/-- The book as it stands. -/
def book : Session Book :=
  return (← get).book

def remark (r : Remark) : Session Unit :=
  modify fun p => { p with remarks := p.remarks ++ [r] }

def remarkAll (rs : List Remark) : Session Unit :=
  modify fun p => { p with remarks := p.remarks ++ rs }

def announce (e : Event) : Session Unit :=
  modify fun p => { p with events := p.events ++ [e] }

/-- Ends in the fault of `result`, if it is one. -/
def pass {α : Type} : Except Fault α → Session α
  | .ok a => pure a
  | .error fault => throw fault

/-- Ends in a fault if a record or a request was refused. -/
def accept {α : Type} : Except Refusal α → Session α
  | .ok a => pure a
  | .error reason => throw (.bare (.refusal reason))

/-- Goes on with the next book, if there is one. -/
def advance : Except LedgerError Book → Session Unit
  | .ok next => modify fun p => { p with book := next }
  | .error error => throw (.bare (.ledger error))

/-- Replaces the data of the account at `key`. -/
def write (key : Key) (data : Bytes) : Session Unit :=
  modify fun p => { p with book := p.book.modify key fun a => { a with data } }

/-! ### Calls to other programs -/

/-- Puts `call` on record, with the seeds that sign for it. -/
def invoke (call : Call) (seeds : List (List Bytes)) : Session Unit :=
  modify fun p => { p with invocations := p.invocations ++ [⟨call, seeds⟩] }

/-- Creates an account of `width` zero bytes for the lottery program, paid by `payer`. -/
def createRecord (payer target : Key) (width : Nat) : Session Unit := do
  let lamports := Account.rent width
  invoke {
    program := Known.systemProgram
    accounts := [Entry.mutableSigner payer, Entry.mutableSigner target]
    data := Bytes.ofHalfWord 0 ++ Bytes.ofWord lamports ++ Bytes.ofWord (UInt64.ofNat width)
      ++ Known.lotteryProgram.bytes } []
  let b ← book
  advance (b.allocate payer target lamports (List.replicate width 0) Known.lotteryProgram)

/-- Opens the token account that `wallet` keeps for `mint`, paid by `payer`. The caller hands over
`target` as that account, and the address has to be among the accounts handed over. -/
def openAssociated (payer target wallet mint : Key) : Session Unit := do
  let address := Address.associated wallet mint
  invoke {
    program := Known.associatedTokenProgram
    accounts := [Entry.mutableSigner payer, Entry.mutable address, Entry.reading wallet,
      Entry.reading mint, Entry.reading Known.systemProgram, Entry.reading Known.tokenProgram]
    data := [0] } []
  let handed := [payer, target, wallet, mint, Known.systemProgram, Known.tokenProgram]
  let b ← book
  if address ∈ handed then
    advance (b.allocate payer address (Account.rent TokenAccount.width)
      (TokenAccount.encodeNew mint wallet) Known.tokenProgram)
  else throw (.bare (.ledger .notEnoughAccountKeys))

/-- Moves `amount` tokens, signed for by `authority`; nothing is called for no tokens. -/
def transfer (source mint destination authority : Key) (amount : UInt64) (decimals : UInt8)
    (seeds : List (List Bytes)) : Session Unit :=
  if amount = 0 then pure ()
  else do
    invoke {
      program := Known.tokenProgram
      accounts := [Entry.mutable source, Entry.reading mint, Entry.mutable destination,
        Entry.signing authority]
      data := 12 :: Bytes.ofWord amount ++ [decimals] } seeds
    let b ← book
    advance (b.transfer source destination amount)

/-! ### Runs -/

@[simp] theorem runOn_pure {α : Type} (a : α) (p : Progress) :
    runOn (pure a : Session α) p = (.ok a, p) :=
  rfl

@[simp] theorem runOn_throw {α : Type} (fault : Fault) (p : Progress) :
    runOn (throw fault : Session α) p = (.error fault, p) :=
  rfl

theorem runOn_bind {α β : Type} (m : Session α) (f : α → Session β) (p : Progress) :
    runOn (m >>= f) p =
      match runOn m p with
      | (.ok a, q) => runOn (f a) q
      | (.error fault, q) => (.error fault, q) := by
  simp only [runOn, ExceptT.run_bind, StateT.run_bind]
  cases first : StateT.run (ExceptT.run m) p with
  | mk result q => cases result <;> rfl

theorem runOn_bind_eq_ok_iff {α β : Type} {m : Session α} {f : α → Session β} {p r : Progress}
    {b : β} :
    runOn (m >>= f) p = (.ok b, r) ↔
      ∃ a q, runOn m p = (.ok a, q) ∧ runOn (f a) q = (.ok b, r) := by
  rw [runOn_bind]
  cases first : runOn m p with
  | mk result q =>
    cases result with
    | ok a =>
      constructor
      · intro second
        exact ⟨a, q, rfl, second⟩
      · rintro ⟨a', q', same, second⟩
        cases same
        exact second
    | error fault => simp

theorem runOn_bind_eq_error_iff {α β : Type} {m : Session α} {f : α → Session β} {p r : Progress}
    {fault : Fault} :
    runOn (m >>= f) p = (.error fault, r) ↔
      runOn m p = (.error fault, r) ∨
        ∃ a q, runOn m p = (.ok a, q) ∧ runOn (f a) q = (.error fault, r) := by
  rw [runOn_bind]
  cases first : runOn m p with
  | mk result q =>
    cases result with
    | ok a =>
      constructor
      · intro second
        exact .inr ⟨a, q, rfl, second⟩
      · rintro (failed | ⟨a', q', same, second⟩)
        · cases failed
        · cases same
          exact second
    | error other => simp

@[simp] theorem runOn_book (p : Progress) : runOn book p = (.ok p.book, p) :=
  rfl

@[simp] theorem runOn_remark (r : Remark) (p : Progress) :
    runOn (remark r) p = (.ok (), { p with remarks := p.remarks ++ [r] }) :=
  rfl

@[simp] theorem runOn_remarkAll (rs : List Remark) (p : Progress) :
    runOn (remarkAll rs) p = (.ok (), { p with remarks := p.remarks ++ rs }) :=
  rfl

@[simp] theorem runOn_announce (e : Event) (p : Progress) :
    runOn (announce e) p = (.ok (), { p with events := p.events ++ [e] }) :=
  rfl

@[simp] theorem runOn_pass {α : Type} (result : Except Fault α) (p : Progress) :
    runOn (pass result) p = (result, p) := by
  cases result <;> rfl

@[simp] theorem runOn_accept {α : Type} (result : Except Refusal α) (p : Progress) :
    runOn (accept result) p = (result.mapError fun reason => .bare (.refusal reason), p) := by
  cases result <;> rfl

@[simp] theorem runOn_advance (next : Except LedgerError Book) (p : Progress) :
    runOn (advance next) p =
      match next with
      | .ok b => (.ok (), { p with book := b })
      | .error error => (.error (.bare (.ledger error)), p) := by
  cases next <;> rfl

@[simp] theorem runOn_write (key : Key) (data : Bytes) (p : Progress) :
    runOn (write key data) p =
      (.ok (), { p with book := p.book.modify key fun a => { a with data } }) :=
  rfl

@[simp] theorem runOn_invoke (call : Call) (seeds : List (List Bytes)) (p : Progress) :
    runOn (invoke call seeds) p =
      (.ok (), { p with invocations := p.invocations ++ [⟨call, seeds⟩] }) :=
  rfl

end Session

end RangeLottery
