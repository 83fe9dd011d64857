import RangeLottery.Proofs.Record.Edit
import RangeLottery.Proofs.Roster.Ranges

/-!
The insertion of an entry as an edit in place, and the edits of lotteries and rosters together. Main
statement: an operation on a lottery or an insertion in a roster does all or nothing. Whatever stops it, it
has written nothing by then, so what it was tried on looks no different to anyone who asks later; if nothing
stops it, it has written to its own fields.
-/

namespace RangeLottery

namespace Roster

variable {r r' : Roster} {id : Key} {t : Ticket} {entries : List Holding}

/-- The roster with one more holding, ahead of those that start no lower. -/
def enter (r : Roster) (h : Holding) : Roster :=
  { r with holdings :=
      (r.holdings.takeWhile fun h' => h'.ticket.start < h.ticket.start) ++
        h :: r.holdings.dropWhile fun h' => h'.ticket.start < h.ticket.start }

theorem holdings_enter_perm (r : Roster) (h : Holding) :
    (r.enter h).holdings.Perm (h :: r.holdings) := by
  refine List.perm_middle.trans (.cons h ?_)
  rw [List.takeWhile_append_dropWhile]

def insertInPlace (id : Key) (t : Ticket) : Edit Roster Holding Unit := do
  let r ← Edit.value
  Edit.refuseIf (t.lottery ≠ r.lottery) .invalidAccount
  Edit.refuseIf (t.stop ≤ t.start) .invalidTicketRange
  Edit.refuseIf ((r.below? t.start).any fun h => t.start < h.ticket.stop) .invalidTicketRange
  Edit.refuseIf ((r.above? t.start).any fun h => h.ticket.start < t.stop) .invalidTicketRange
  Edit.write enter ⟨id, t⟩

/-- What an insertion writes: nothing, if it is refused. -/
def writesOf (id : Key) (t : Ticket) : Except Refusal Unit → List Holding
  | .ok () => [⟨id, t⟩]
  | .error _ => []

theorem runOn_insertInPlace (r : Roster) (id : Key) (t : Ticket) :
    Edit.runOn (insertInPlace id t) (.start r) =
      ((r.insert id t).1, ⟨(r.insert id t).2, writesOf id t (r.insert id t).1⟩) := by
  simp only [insertInPlace, insert, Draft.start, Edit.runOn_value_bind, Edit.runOn_refuseIf_bind]
  repeat' split
  all_goals rfl

/-! ### All or nothing -/

/-- Everything that can be asked of a roster. -/
structure Replies where
  holdings : List Holding
  find? : UInt64 → Option Holding
  winningHolding : Lottery → Except Refusal Holding
  tiles : UInt64 → Bool

def replies (r : Roster) : Replies :=
  ⟨r.holdings, r.find?, r.winningHolding, r.tiles⟩

theorem eq_enter_of_insert_granted (granted : r.insert id t = (.ok (), r')) : r' = r.enter ⟨id, t⟩ := by
  unfold insert at granted
  repeat' split at granted
  all_goals cases granted
  rfl

/-- The insertion adds the entry to what was entered before, or it is refused and writes nothing. -/
structure AllOrNothing (r : Roster) (id : Key) (t : Ticket) : Prop where
  inPlace : Edit.runOn (insertInPlace id t) (.start r) =
    ((r.insert id t).1, ⟨(r.insert id t).2, writesOf id t (r.insert id t).1⟩)
  refused : ∀ reason, (r.insert id t).1 = .error reason → (r.insert id t).2 = r
  replies : ∀ reason, (r.insert id t).1 = .error reason → ∀ later,
    ((r.insert id t).2.after later).replies = (r.after later).replies
  granted : (r.insert id t).1 = .ok () → (r.insert id t).2.lottery = r.lottery ∧
    (r.insert id t).2.holdings.Perm (⟨id, t⟩ :: r.holdings)

theorem allOrNothing (r : Roster) (id : Key) (t : Ticket) : r.AllOrNothing id t := by
  have unchanged : ∀ reason, (r.insert id t).1 = .error reason → (r.insert id t).2 = r := by
    intro reason refused
    exact eq_of_insert_refused (Prod.ext refused rfl)
  constructor
  case inPlace => exact runOn_insertInPlace r id t
  case refused => exact unchanged
  case replies =>
    intro reason refused later
    rw [unchanged reason refused]
  case granted =>
    intro granted
    have entered : (r.insert id t).2 = r.enter ⟨id, t⟩ :=
      eq_enter_of_insert_granted (Prod.ext granted rfl)
    rw [entered]
    exact ⟨rfl, holdings_enter_perm r _⟩

/-- The entries that are taken among others are all taken without them, and make the same roster. -/
theorem insertAll_taken (r : Roster) (entries : List Holding) :
    r.insertAll (r.taken entries) = .ok (r.after entries) := by
  induction entries generalizing r with
  | nil => rfl
  | cons first rest ih =>
    rw [taken, after, List.foldl_cons]
    rcases outcome : r.insert first.id first.ticket with ⟨reason | _, next⟩
    · exact eq_of_insert_refused outcome ▸ ih next
    · dsimp only
      rw [insertAll, outcome]
      exact ih next

end Roster

/-- Every operation on a lottery and every insertion in a roster is done as a whole or leaves no trace. What
is left out of a course of operations or of a list of entries because it would be refused is not missed. -/
theorem edits_all_or_nothing :
    (∀ (l : Lottery) operation, l.AllOrNothing operation) ∧
      (∀ (l : Lottery) operations,
        l.attempts ((l.granted operations).map Lottery.Attempt.operation) = l.granted operations ∧
          l.after ((l.granted operations).map Lottery.Attempt.operation) = l.after operations) ∧
        (∀ (r : Roster) id t, r.AllOrNothing id t) ∧
          ∀ (r : Roster) entries, r.insertAll (r.taken entries) = .ok (r.after entries) :=
  ⟨Lottery.allOrNothing, Lottery.attempts_granted, Roster.allOrNothing, Roster.insertAll_taken⟩

end RangeLottery
