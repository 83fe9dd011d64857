import Mathlib.Data.List.Induction
import RangeLottery.Proofs.Record.Lottery

/-!
The course of one lottery: operations tried on its record one after another, in any order and with any
arguments. A refused operation leaves the record as it was and the course goes on. What a trial can come
to is one relation, with a case for each operation (`Lottery.Tried`), so that statements about courses
are proved by its cases and do not open the operations; what every trial keeps, a course keeps
(`Lottery.course_induction`).
-/

namespace RangeLottery

namespace Lottery

/-- What an operation is for. -/
inductive Act where
  | sale
  | draw
  | settlement
  | voiding
  deriving DecidableEq, Repr

/-- An operation on a lottery, with its arguments. -/
inductive Operation where
  | issue (id buyer : Key) (amount slot : UInt64)
  | draw (id : Key) (sample : SlotHash) (slot : UInt64)
  | settle (id : Key) (ticket : Ticket) (balance : UInt64)
  | void (slot : UInt64)
  deriving DecidableEq, Repr

def Operation.act : Operation → Act
  | issue .. => .sale
  | draw .. => .draw
  | settle .. => .settlement
  | void .. => .voiding

/-- What a granted operation answers. -/
inductive Answer where
  | issued (ticket : Ticket)
  | drawn (number : UInt64)
  | settled (payout : Payout)
  | voided
  deriving DecidableEq, Repr

/-- An operation and what came of it. -/
structure Attempt where
  operation : Operation
  result : Except Refusal Answer

namespace Attempt

/-- Whether the attempt was for `act` and was granted. -/
def grants (a : Attempt) (act : Act) : Bool :=
  a.operation.act = act && a.result.isOk

@[simp] theorem grants_refused (operation : Operation) (reason : Refusal) (act : Act) :
    (Attempt.mk operation (.error reason)).grants act = false := by
  simp [grants, Except.isOk, Except.toBool]

@[simp] theorem grants_granted (operation : Operation) (answer : Answer) (act : Act) :
    (Attempt.mk operation (.ok answer)).grants act = decide (operation.act = act) := by
  simp [grants, Except.isOk, Except.toBool]

/-- The ticket that was sold. -/
def ticket? (a : Attempt) : Option Ticket :=
  match a.result with
  | .ok (.issued ticket) => some ticket
  | _ => none

end Attempt

/-- An outcome with its answer among the answers of all operations. -/
def answered {α : Type} (answer : α → Answer) (outcome : Except Refusal α × Lottery) :
    Except Refusal Answer × Lottery :=
  (outcome.1.map answer, outcome.2)

/-- Tries the operation: its answer, and the record it leaves behind. -/
def perform (l : Lottery) : Operation → Except Refusal Answer × Lottery
  | .issue id buyer amount slot => answered .issued (l.issue id buyer amount slot)
  | .draw id sample slot => answered .drawn (l.draw id sample slot)
  | .settle id ticket balance => answered .settled (l.settle id ticket balance)
  | .void slot => answered (fun _ => .voided) (l.void slot)

/-- The record after the operations were tried in turn. -/
def after (l : Lottery) (operations : List Operation) : Lottery :=
  operations.foldl (fun l operation => (l.perform operation).2) l

/-- The attempts of a course. -/
def attempts (l : Lottery) : List Operation → List Attempt
  | [] => []
  | operation :: rest =>
    ⟨operation, (l.perform operation).1⟩ :: (l.perform operation).2.attempts rest

/-- The tickets sold in a course, in the order of their sale. -/
def tickets (l : Lottery) (operations : List Operation) : List Ticket :=
  (l.attempts operations).filterMap Attempt.ticket?

variable {l l' : Lottery} {operation : Operation} {operations later : List Operation}
  {result : Except Refusal Answer}

@[simp] theorem after_nil (l : Lottery) : l.after [] = l :=
  rfl

theorem after_append : l.after (operations ++ later) = (l.after operations).after later :=
  List.foldl_append

theorem after_concat :
    l.after (operations ++ [operation]) = ((l.after operations).perform operation).2 :=
  List.foldl_append

@[simp] theorem attempts_nil (l : Lottery) : l.attempts [] = [] :=
  rfl

theorem attempts_append :
    l.attempts (operations ++ later) =
      l.attempts operations ++ (l.after operations).attempts later := by
  induction operations generalizing l with
  | nil => rfl
  | cons first rest ih =>
    rw [List.cons_append, attempts, attempts, ih, List.cons_append]
    rfl

theorem attempts_concat :
    l.attempts (operations ++ [operation]) =
      l.attempts operations ++ [⟨operation, ((l.after operations).perform operation).1⟩] :=
  attempts_append

/-- What the operation on `l` can come to: a refusal, or the answer of a granted operation and the
record that it leaves. -/
inductive Tried (l : Lottery) : Operation → Except Refusal Answer → Lottery → Prop
  | refused (operation : Operation) (reason : Refusal) : Tried l operation (.error reason) l
  | issued {id buyer : Key} {amount slot : UInt64} {t : Ticket} {l' : Lottery}
      (granted : l.issue id buyer amount slot = (.ok t, l')) :
      Tried l (.issue id buyer amount slot) (.ok (.issued t)) l'
  | drawn {id : Key} {sample : SlotHash} {slot number : UInt64} {l' : Lottery}
      (granted : l.draw id sample slot = (.ok number, l')) :
      Tried l (.draw id sample slot) (.ok (.drawn number)) l'
  | settled {id : Key} {t : Ticket} {balance : UInt64} {payout : Payout} {l' : Lottery}
      (granted : l.settle id t balance = (.ok payout, l')) :
      Tried l (.settle id t balance) (.ok (.settled payout)) l'
  | voided {slot : UInt64} {l' : Lottery} (granted : l.void slot = (.ok (), l')) :
      Tried l (.void slot) (.ok .voided) l'

theorem tried_perform (l : Lottery) (operation : Operation) :
    l.Tried operation (l.perform operation).1 (l.perform operation).2 := by
  cases operation with
  | issue id buyer amount slot =>
    rcases outcome : l.issue id buyer amount slot with ⟨reason | t, l'⟩
    · obtain rfl := eq_of_issue_refused outcome
      simpa only [perform, outcome] using .refused _ reason
    · simpa only [perform, outcome] using .issued outcome
  | draw id sample slot =>
    rcases outcome : l.draw id sample slot with ⟨reason | number, l'⟩
    · obtain rfl := eq_of_draw_refused outcome
      simpa only [perform, outcome] using .refused _ reason
    · simpa only [perform, outcome] using .drawn outcome
  | settle id t balance =>
    rcases outcome : l.settle id t balance with ⟨reason | payout, l'⟩
    · obtain rfl := eq_of_settle_refused outcome
      simpa only [perform, outcome] using .refused _ reason
    · simpa only [perform, outcome] using .settled outcome
  | void slot =>
    rcases outcome : l.void slot with ⟨reason | _, l'⟩
    · obtain rfl := eq_of_void_refused outcome
      simpa only [perform, outcome] using .refused _ reason
    · simpa only [perform, outcome] using .voided outcome

/-- No operation changes the terms of a lottery. -/
theorem Tried.sameTerms (tried : l.Tried operation result l') : l.SameTerms l' := by
  cases tried with
  | refused => exact .refl l
  | issued granted => exact sameTerms_of_issue granted
  | drawn granted => exact sameTerms_of_draw granted
  | settled granted => exact sameTerms_of_settle granted
  | voided granted => exact sameTerms_of_void granted

/-- Every operation leaves a record that can be stored, if it was given one. -/
theorem Tried.storable (tried : l.Tried operation result l') (storable : l.Storable) :
    l'.Storable := by
  cases tried with
  | refused => exact storable
  | issued granted => exact storable_of_issue granted
  | drawn granted => exact storable_of_draw storable granted
  | settled granted => exact storable_of_settle storable granted
  | voided granted => exact storable_of_void storable granted

/-- A refused operation leaves the record as it was. -/
theorem perform_refused (refused : (l.perform operation).1 = .error reason) :
    (l.perform operation).2 = l := by
  have tried := tried_perform l operation
  rw [refused] at tried
  generalize (l.perform operation).2 = l' at tried ⊢
  cases tried
  rfl

/-- What is tried behind a refused operation is answered as if that had not been tried. -/
theorem attempts_of_refused (refused : ((l.after operations).perform operation).1 = .error reason)
    (later : List Operation) :
    l.attempts (operations ++ operation :: later) =
        l.attempts operations ++ ⟨operation, .error reason⟩ :: (l.after operations).attempts later ∧
      l.after (operations ++ operation :: later) = l.after (operations ++ later) := by
  rw [attempts_append, attempts, refused, perform_refused refused, after_append, after_append]
  refine ⟨rfl, ?_⟩
  change ((l.after operations).perform operation).2.after later = _
  rw [perform_refused refused]

/-- What holds at the start of a course and is kept by every trial of one of its operations holds at its
end, of the attempts so far and of the record behind them. -/
theorem course_induction {motive : List Attempt → Lottery → Prop} (start : motive [] l)
    (step : ∀ {attempts l' operation result l''}, operation ∈ operations →
      l'.Tried operation result l'' → motive attempts l' →
        motive (attempts ++ [⟨operation, result⟩]) l'') :
    motive (l.attempts operations) (l.after operations) := by
  induction operations using List.reverseRecOn with
  | nil => exact start
  | append_singleton earlier operation ih =>
    rw [after_concat, attempts_concat]
    apply step (List.mem_append_right _ List.mem_cons_self) (tried_perform _ operation)
    apply ih
    intro attempts l' operation result l'' mem
    exact step (List.mem_append_left _ mem)

end Lottery

/-! ### A small lottery

One lottery and two buyers, for courses that are carried out. -/

namespace Sample

def lottery : Key :=
  .ofNat 2

def authority : Key :=
  .ofNat 3

def buyer : Key :=
  .ofNat 4

def mint : Key :=
  .ofNat 6

/-- The token account that the custody address keeps for the mint. -/
def vault : Key :=
  .ofNat 0xbe4e64dc2a70c098f1ebb9d02bd3fa1c5a4a87ca68f1dce6d99c4e41aebdef25

/-- The token account that the fee collector keeps for the mint. -/
def feeAccount : Key :=
  .ofNat 0xcc98a9d84f3ccaaecd4527bdb7444c6c616200dbc0327e3728c2b7d7df528e8b

/-- A lottery of a hundred numbers that sells until slot 50. -/
def launched : Lottery where
  kind := .undrawn
  authority := authority
  vault := vault
  feeAccount := feeAccount
  capacity := 100
  deadline := 50
  number := 0
  sold := 0
  mint := mint

/-- The buyer and the authority buy sixty numbers between them, and the last of the numbers is drawn.
Refused are a purchase of more than is left, a voiding and a second draw. -/
def course : List Lottery.Operation := [
  .issue lottery buyer 40 30,
  .issue lottery authority 20 31,
  .issue lottery buyer 41 32,
  .draw lottery ⟨51, .ofNat 102⟩ 60,
  .void 61,
  .draw lottery ⟨53, .ofNat 103⟩ 62]

theorem launch_eq :
    Lottery.launch authority vault feeAccount mint 100 50 20 = .ok launched :=
  Lottery.launch_eq_ok_iff.mpr ⟨by decide, by decide, rfl⟩

theorem after_course :
    launched.after course = { launched with kind := .drawn, number := 59, sold := 60 } := by
  decide +kernel

end Sample

end RangeLottery
