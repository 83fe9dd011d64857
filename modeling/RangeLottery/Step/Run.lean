import RangeLottery.Step.Drawing
import RangeLottery.Step.Opening
import RangeLottery.Step.Purchase
import RangeLottery.Step.Settlement
import RangeLottery.Step.Voiding

/-!
Steps of the ledger: one call to the lottery program at one slot. A step that succeeds puts its book
in the place of the old one, and a step that ends in a fault leaves the old book; what was remarked,
announced and asked of other programs is known in either case. Main statement: a fault changes no
account.
-/

namespace RangeLottery

/-- A call at a slot. -/
structure Step where
  slot : UInt64
  call : Call
  deriving DecidableEq, Repr

/-- What came of a step. -/
structure Outcome where
  result : Except Fault Unit
  book : Book
  remarks : List Remark
  events : List Event
  invocations : List Invocation

namespace Step

/-- Carries out `request` on the accounts of the call. -/
def serve (slot : UInt64) (entries : List Entry) : Request → Session Unit
  | .launch capacity deadline => Opening.run slot entries capacity deadline
  | .buy amount => Purchase.run slot entries amount
  | .draw => Drawing.run slot entries
  | .settle => Settlement.run entries
  | .void => Voiding.run slot entries

/-- Reads the request of the call and carries it out. -/
def session (s : Step) : Session Unit := do
  if s.call.program ≠ Known.lotteryProgram then
    throw (.bare (.violation .wrongProgramCalled))
  let request ← Session.accept (Request.decode s.call.data)
  Session.remark (.received request)
  serve s.slot s.call.accounts request

/-- Takes the step on `b`. -/
def run (s : Step) (b : Book) : Outcome :=
  let (result, p) := s.session.runOn (Progress.start b)
  { result
    book := match result with
      | .ok () => p.book
      | .error _ => b
    remarks := p.remarks
    events := p.events
    invocations := p.invocations }

theorem book_run_of_fault {s : Step} {b : Book} {fault : Fault}
    (failed : (s.run b).result = .error fault) : (s.run b).book = b := by
  revert failed
  unfold run
  split
  rename_i result p _
  cases result <;> simp

end Step

namespace Outcome

/-- The lines of the log. -/
def log (o : Outcome) : List String :=
  o.remarks.map Remark.line

/-! ### At the entrance of the program

The ledger itself only knows errors of its own form, so a fault that leaves the program is reported
in the log and then reduced to such an error. -/

/-- The result as the ledger sees it. -/
def ledgerResult (o : Outcome) : Except LedgerError Unit :=
  o.result.mapError fun fault => fault.cause.toLedgerError

/-- The lines of the log with the report of the fault. -/
def ledgerLog (o : Outcome) : List String :=
  match o.result with
  | .ok () => o.log
  | .error fault => o.log ++ fault.report

end Outcome

/-- The book after `steps`, taken in order. -/
def Book.after (b : Book) (steps : List Step) : Book :=
  steps.foldl (fun b s => (s.run b).book) b

end RangeLottery
