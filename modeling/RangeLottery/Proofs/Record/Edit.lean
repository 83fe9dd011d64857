import RangeLottery.Proofs.Record.Course

/-!
Operations as edits in place. An edit finds a record, asks for what it needs and writes to one field after
another; a refusal ends it where it stands, and what was written by then stays written. Here the operations
on a lottery are written out in this way. Main statements: each is the operation, its questions all come
before its first write, and it writes to its own fields only. So a refused operation has written nothing at
all, and whatever is refused in a course may as well not have been tried.
-/

namespace RangeLottery

/-! ### Edits -/

/-- A value that is being edited, and what was written to it so far. -/
structure Draft (σ ω : Type) where
  value : σ
  writes : List ω

/-- The draft of `value` before anything is written. -/
def Draft.start {σ ω : Type} (value : σ) : Draft σ ω :=
  ⟨value, []⟩

/-- An edit of a value of type `σ` by writes of type `ω`. -/
abbrev Edit (σ ω : Type) := ExceptT Refusal (StateM (Draft σ ω))

namespace Edit

variable {σ ω α β : Type}

/-- What comes of the edit of `d`: its answer or refusal, and the draft as it was left. -/
def runOn (m : Edit σ ω α) (d : Draft σ ω) : Except Refusal α × Draft σ ω :=
  StateT.run (ExceptT.run m) d

/-- The value as it stands. -/
def value : Edit σ ω σ :=
  return (← get).value

/-- Ends in the refusal of `result`, if it is one. -/
def accept : Except Refusal α → Edit σ ω α
  | .ok a => pure a
  | .error reason => throw reason

def refuseIf (condition : Prop) [Decidable condition] (reason : Refusal) : Edit σ ω Unit :=
  if condition then throw reason else pure ()

/-- Makes the write `w`, which `apply` carries out. -/
def write (apply : σ → ω → σ) (w : ω) : Edit σ ω Unit :=
  modify fun d => ⟨apply d.value w, d.writes ++ [w]⟩

variable {d : Draft σ ω}

@[simp] theorem runOn_value_bind (f : σ → Edit σ ω β) : runOn (value >>= f) d = runOn (f d.value) d :=
  rfl

@[simp] theorem runOn_accept_ok_bind (a : α) (f : α → Edit σ ω β) :
    runOn (accept (.ok a) >>= f) d = runOn (f a) d :=
  rfl

@[simp] theorem runOn_refuseIf_bind (condition : Prop) [Decidable condition] (reason : Refusal)
    (f : Unit → Edit σ ω β) :
    runOn (refuseIf condition reason >>= f) d =
      if condition then (.error reason, d) else runOn (f ()) d := by
  unfold refuseIf
  split <;> rfl

theorem runOn_map (f : α → β) (m : Edit σ ω α) :
    runOn (f <$> m) d = ((runOn m d).1.map f, (runOn m d).2) := by
  rw [map_eq_pure_bind]
  simp only [runOn, ExceptT.run_bind, StateT.run_bind]
  cases first : StateT.run (ExceptT.run m) d with
  | mk result q => cases result <;> rfl

end Edit

namespace Lottery

/-! ### Fields -/

inductive Field where
  | kind
  | authority
  | vault
  | feeAccount
  | capacity
  | deadline
  | number
  | sold
  | mint
  deriving DecidableEq, Repr

def Field.Value : Field → Type
  | kind => RecordKind
  | authority | vault | feeAccount | mint => Key
  | capacity | deadline | number | sold => UInt64

def get (l : Lottery) : (field : Field) → field.Value
  | .kind => l.kind
  | .authority => l.authority
  | .vault => l.vault
  | .feeAccount => l.feeAccount
  | .capacity => l.capacity
  | .deadline => l.deadline
  | .number => l.number
  | .sold => l.sold
  | .mint => l.mint

/-- The write of a value to a field. -/
structure Write where
  field : Field
  value : field.Value

def Write.apply (l : Lottery) : Write → Lottery
  | ⟨.kind, kind⟩ => { l with kind }
  | ⟨.authority, authority⟩ => { l with authority }
  | ⟨.vault, vault⟩ => { l with vault }
  | ⟨.feeAccount, feeAccount⟩ => { l with feeAccount }
  | ⟨.capacity, capacity⟩ => { l with capacity }
  | ⟨.deadline, deadline⟩ => { l with deadline }
  | ⟨.number, number⟩ => { l with number }
  | ⟨.sold, sold⟩ => { l with sold }
  | ⟨.mint, mint⟩ => { l with mint }

/-- The record after the writes were made in turn. -/
def written (l : Lottery) (made : List Write) : Lottery :=
  made.foldl Write.apply l

variable {l l' : Lottery} {field : Field} {made : List Write} {operation : Operation}
  {operations : List Operation} {result : Except Refusal Answer} {answer : Answer}

theorem get_apply (l : Lottery) (w : Write) (field : Field) :
    (w.apply l).get field = if same : w.field = field then same ▸ w.value else l.get field := by
  obtain ⟨field', value⟩ := w
  cases field' <;> cases field <;> rfl

theorem get_written_of_notMem (untouched : field ∉ made.map Write.field) :
    (l.written made).get field = l.get field := by
  induction made generalizing l with
  | nil => rfl
  | cons w rest ih =>
    rw [List.map_cons, List.mem_cons, not_or] at untouched
    exact (ih untouched.2).trans ((get_apply l w field).trans (dif_neg (Ne.symm untouched.1)))

/-- The fields that an operation writes to, by what it is for. -/
def Act.fields : Act → List Field
  | .sale => [.sold]
  | .draw => [.number, .kind]
  | .settlement => [.kind]
  | .voiding => [.kind]

/-- What a granted operation writes. -/
def Answer.writes : Answer → List Write
  | .issued t => [⟨.sold, t.stop⟩]
  | .drawn number => [⟨.number, number⟩, ⟨.kind, RecordKind.drawn⟩]
  | .settled _ => [⟨.kind, RecordKind.settled⟩]
  | .voided => [⟨.kind, RecordKind.voided⟩]

/-- What an operation writes: nothing, if it is refused. -/
def writesOf : Except Refusal Answer → List Write
  | .ok answer => answer.writes
  | .error _ => []

theorem Tried.eq_written (tried : l.Tried operation result l') : l' = l.written (writesOf result) := by
  cases tried with
  | refused => rfl
  | issued granted =>
    obtain ⟨-, -, -, -, -, -, rfl⟩ := issue_eq_ok_iff.mp granted
    rfl
  | drawn granted =>
    obtain ⟨-, -, -, rfl⟩ := draw_eq_ok_iff.mp granted
    rfl
  | settled granted =>
    obtain ⟨-, -, -, -, rfl⟩ := settle_eq_ok_iff.mp granted
    rfl
  | voided granted =>
    obtain ⟨-, -, -, rfl⟩ := void_eq_ok_iff.mp granted
    rfl

theorem Tried.fields_writes (tried : l.Tried operation (.ok answer) l') :
    answer.writes.map Write.field = operation.act.fields := by
  cases tried <;> rfl

/-! ### Operations in place -/

/-- Writes to one field. -/
def put (w : Write) : Edit Lottery Write Unit :=
  Edit.write Write.apply w

def issueInPlace (id buyer : Key) (amount slot : UInt64) : Edit Lottery Write Ticket := do
  let l ← Edit.value
  Edit.refuseIf (l.kind ≠ .undrawn ∨ l.deadline ≤ slot) .lotteryClosed
  Edit.refuseIf (amount = 0) .invalidAmount
  let stop ← Edit.accept ((Amount.add? l.sold amount).elim (.error .arithmeticOverflow) .ok)
  Edit.refuseIf (l.capacity < stop) .capacityExceeded
  put ⟨.sold, stop⟩
  return ⟨id, buyer, l.sold, stop⟩

def drawInPlace (id : Key) (sample : SlotHash) (slot : UInt64) : Edit Lottery Write UInt64 := do
  let l ← Edit.value
  Edit.accept (l.readyToDraw slot)
  Edit.refuseIf (sample.slot ≤ l.deadline) .lotteryStillOpen
  let number ← Edit.accept (WinningNumber.derive sample.hash id l.sold)
  put ⟨.number, number⟩
  put ⟨.kind, RecordKind.drawn⟩
  return number

def settleInPlace (id : Key) (t : Ticket) (balance : UInt64) : Edit Lottery Write Payout := do
  let l ← Edit.value
  Edit.accept <| match l.kind with
    | .drawn => .ok ()
    | .settled | .voided => .error .alreadySettled
    | .undrawn => .error .notDrawn
    | .uninitialized | .ticket => .error .malformedPayload
  Edit.refuseIf (t.lottery ≠ id) .invalidAccount
  Edit.refuseIf (t.contains l.number = false) .notWinningTicket
  let payout ← Edit.accept (Payout.split balance Payout.feeRate)
  put ⟨.kind, RecordKind.settled⟩
  return payout

def voidInPlace (slot : UInt64) : Edit Lottery Write Unit := do
  let l ← Edit.value
  Edit.accept <| match l.kind with
    | .undrawn => .ok ()
    | .drawn => .error .alreadyDrawn
    | .settled | .voided => .error .alreadySettled
    | .uninitialized | .ticket => .error .malformedPayload
  Edit.refuseIf (slot < l.deadline) .lotteryStillOpen
  Edit.refuseIf (l.sold ≠ 0) .ticketsSold
  put ⟨.kind, RecordKind.voided⟩

/-- The operation in place. -/
def Operation.inPlace : Operation → Edit Lottery Write Answer
  | .issue id buyer amount slot => .issued <$> issueInPlace id buyer amount slot
  | .draw id sample slot => .drawn <$> drawInPlace id sample slot
  | .settle id t balance => .settled <$> settleInPlace id t balance
  | .void slot => (fun _ => .voided) <$> voidInPlace slot

/-- The outcome of an operation, with what it wrote. -/
def traced {α : Type} (answer : α → Answer) (outcome : Except Refusal α × Lottery) :
    Except Refusal α × Draft Lottery Write :=
  (outcome.1, ⟨outcome.2, writesOf (outcome.1.map answer)⟩)

variable {id buyer : Key} {amount slot balance : UInt64} {sample : SlotHash} {t : Ticket}

theorem runOn_issueInPlace :
    Edit.runOn (issueInPlace id buyer amount slot) (.start l) =
      traced .issued (l.issue id buyer amount slot) := by
  simp only [issueInPlace, issue, Draft.start, Edit.runOn_value_bind, Edit.runOn_refuseIf_bind]
  split
  · rfl
  · split
    · rfl
    · cases Amount.add? l.sold amount with
      | none => rfl
      | some stop =>
        simp only [Option.elim_some, Edit.runOn_accept_ok_bind, Edit.runOn_refuseIf_bind]
        split <;> rfl

theorem runOn_drawInPlace :
    Edit.runOn (drawInPlace id sample slot) (.start l) = traced .drawn (l.draw id sample slot) := by
  simp only [drawInPlace, draw, Draft.start, Edit.runOn_value_bind]
  cases l.readyToDraw slot with
  | error reason => rfl
  | ok _ =>
    simp only [Edit.runOn_accept_ok_bind, Edit.runOn_refuseIf_bind]
    split
    · rfl
    · cases WinningNumber.derive sample.hash id l.sold <;> rfl

theorem runOn_settleInPlace :
    Edit.runOn (settleInPlace id t balance) (.start l) =
      traced .settled (l.settle id t balance) := by
  simp only [settleInPlace, settle, Draft.start, Edit.runOn_value_bind]
  cases l.kind with
  | uninitialized | undrawn | settled | voided | ticket => rfl
  | drawn =>
    simp only [Edit.runOn_accept_ok_bind, Edit.runOn_refuseIf_bind]
    split
    · rfl
    · split
      · rfl
      · cases Payout.split balance Payout.feeRate <;> rfl

theorem runOn_voidInPlace :
    Edit.runOn (voidInPlace slot) (.start l) = traced (fun _ => .voided) (l.void slot) := by
  simp only [voidInPlace, void, Draft.start, Edit.runOn_value_bind]
  cases l.kind with
  | uninitialized | drawn | settled | voided | ticket => rfl
  | undrawn =>
    simp only [Edit.runOn_accept_ok_bind, Edit.runOn_refuseIf_bind]
    split
    · rfl
    · split <;> rfl

/-- Carried out in place, an operation has the same outcome, and its writes are those of its answer: by the
time it is refused it has made none. -/
theorem runOn_inPlace (l : Lottery) (operation : Operation) :
    Edit.runOn operation.inPlace (.start l) =
      ((l.perform operation).1, ⟨(l.perform operation).2, writesOf (l.perform operation).1⟩) := by
  cases operation with
  | issue =>
    rw [Operation.inPlace, Edit.runOn_map, runOn_issueInPlace]
    rfl
  | draw =>
    rw [Operation.inPlace, Edit.runOn_map, runOn_drawInPlace]
    rfl
  | settle =>
    rw [Operation.inPlace, Edit.runOn_map, runOn_settleInPlace]
    rfl
  | void =>
    rw [Operation.inPlace, Edit.runOn_map, runOn_voidInPlace]
    rfl

/-! ### All or nothing -/

/-- The operation writes all that its answer stands for, to its own fields, or it is refused and writes
nothing. -/
structure AllOrNothing (l : Lottery) (operation : Operation) : Prop where
  inPlace : Edit.runOn operation.inPlace (.start l) =
    ((l.perform operation).1, ⟨(l.perform operation).2, writesOf (l.perform operation).1⟩)
  refused : ∀ reason, (l.perform operation).1 = .error reason → (l.perform operation).2 = l
  granted : ∀ answer, (l.perform operation).1 = .ok answer →
    (l.perform operation).2 = l.written answer.writes ∧
      answer.writes.map Write.field = operation.act.fields
  untouched : ∀ field, field ∉ operation.act.fields →
    (l.perform operation).2.get field = l.get field

theorem allOrNothing (l : Lottery) (operation : Operation) : l.AllOrNothing operation := by
  have tried := tried_perform l operation
  constructor
  case inPlace => exact runOn_inPlace l operation
  case refused => exact fun reason refused => perform_refused refused
  case granted =>
    intro answer granted
    rw [granted] at tried
    exact ⟨tried.eq_written, tried.fields_writes⟩
  case untouched =>
    intro field other
    cases result : (l.perform operation).1 with
    | error reason => rw [perform_refused result]
    | ok answer =>
      -- The writes of the answer are to the fields of the operation, and to none beside them.
      rw [result] at tried
      rw [tried.eq_written]
      apply get_written_of_notMem
      rwa [← tried.fields_writes] at other

/-- An edit that writes ahead of its questions is another matter: here the record is left drawn. -/
example :
    let hasty : Edit Lottery Write Unit := do
      put ⟨.kind, RecordKind.drawn⟩
      Edit.refuseIf (Sample.launched.sold = 0) .noTicketsSold
    (Edit.runOn hasty (.start Sample.launched)).1 = .error .noTicketsSold ∧
      (Edit.runOn hasty (.start Sample.launched)).2.value.kind = .drawn := by
  exact ⟨rfl, rfl⟩

/-- The attempts of a course that were granted. -/
def granted (l : Lottery) (operations : List Operation) : List Attempt :=
  (l.attempts operations).filter (·.result.isOk)

/-- Without what was refused, a course is granted all the rest and comes to the same record. -/
theorem attempts_granted (l : Lottery) (operations : List Operation) :
    l.attempts ((l.granted operations).map Attempt.operation) = l.granted operations ∧
      l.after ((l.granted operations).map Attempt.operation) = l.after operations := by
  induction operations generalizing l with
  | nil => exact ⟨rfl, rfl⟩
  | cons operation rest ih =>
    cases result : (l.perform operation).1 with
    | error reason =>
      -- The rest is tried on the record that the refused operation was tried on.
      obtain ⟨attempted, passed⟩ :
          l.attempts (operation :: rest) = ⟨operation, .error reason⟩ :: l.attempts rest ∧
            l.after (operation :: rest) = l.after rest :=
        attempts_of_refused (show ((l.after []).perform operation).1 = .error reason from result) rest
      have kept : l.granted (operation :: rest) = l.granted rest := by
        rw [granted, attempted]
        rfl
      rw [kept, passed]
      exact ih l
    | ok answer =>
      obtain ⟨attempts_eq, after_eq⟩ := ih (l.perform operation).2
      have kept : l.granted (operation :: rest) =
          ⟨operation, .ok answer⟩ :: (l.perform operation).2.granted rest := by
        rw [granted, attempts, result]
        rfl
      rw [kept, List.map_cons, attempts, result, attempts_eq]
      exact ⟨rfl, after_eq⟩

end Lottery

end RangeLottery
