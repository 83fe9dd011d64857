import RangeLottery.Proofs.Record.Codec
import RangeLottery.Proofs.Record.Course

/-!
The course of a lottery that is stored between its operations. An account keeps nothing of a lottery but
bytes, so each operation is tried on the record that is read from what the operation before it left
stored. Every operation leaves a storable record storable, so the detour through the bytes is not
noticed. Main statement: from every record that can be read, whether or not a course leads to it, and
from every launch on, a course comes to the same attempts and the same record with the detour as
without, and neither the record nor a ticket sold is ever refused by storing or reading it.
-/

namespace RangeLottery

/-! ### Stored and read again -/

/-- What is read of a buffer behind an attempt to store a record in it. -/
def Record.reread {α : Type} (decode : Bytes → Except Refusal α) :
    Except Refusal Unit × Bytes → Except Refusal α
  | (.error reason, _) => .error reason
  | (.ok (), bytes) => decode bytes

theorem Record.reread_store {α : Type} {decode : Bytes → Except Refusal α} {record buffer : Bytes}
    (length : buffer.length = record.length) : reread decode (store record buffer) = decode record := by
  rw [store, if_pos length, reread]

/-- The lottery that is read after `l` was stored in `buffer`. -/
def Lottery.reread (l : Lottery) (buffer : Bytes) : Except Refusal Lottery :=
  Record.reread decode (l.store buffer)

/-- The ticket that is read after `t` was stored in `buffer`. -/
def Ticket.reread (t : Ticket) (buffer : Bytes) : Except Refusal Ticket :=
  Record.reread decode (t.store buffer)

theorem Ticket.reread_eq {t : Ticket} {buffer : Bytes} (nonempty : t.start < t.stop)
    (length : buffer.length = width) : t.reread buffer = .ok t := by
  rw [Ticket.reread, store, Record.reread_store (length.trans (length_encode t).symm)]
  exact decode_eq_ok_iff.mpr ⟨nonempty, rfl⟩

namespace Lottery

variable {l : Lottery} {buffer : Bytes} {operations : List Operation}
  {steps : List (Operation × Bytes)}

theorem reread_eq (storable : l.Storable) (length : buffer.length = width) :
    l.reread buffer = .ok l := by
  rw [Lottery.reread, store, Record.reread_store (length.trans (length_encode l).symm)]
  exact decode_eq_ok_iff.mpr ⟨storable, rfl⟩

/-! ### Courses -/

/-- Tries the operations in turn, stores the record behind each of them in the buffer given with it,
and goes on from what is then read: the attempts and the last record, or the refusal of a record that
could not be stored or read. -/
def storedCourse (l : Lottery) : List (Operation × Bytes) → Except Refusal (List Attempt × Lottery)
  | [] => .ok ([], l)
  | (operation, buffer) :: rest => do
    let (result, left) := l.perform operation
    let read ← left.reread buffer
    let (attempts, last) ← read.storedCourse rest
    return (⟨operation, result⟩ :: attempts, last)

theorem storedCourse_eq (storable : l.Storable) (sized : ∀ step ∈ steps, step.2.length = width) :
    l.storedCourse steps =
      .ok (l.attempts (steps.map Prod.fst), l.after (steps.map Prod.fst)) := by
  induction steps generalizing l with
  | nil => rfl
  | cons step rest ih =>
    obtain ⟨operation, buffer⟩ := step
    have storable' := (tried_perform l operation).storable storable
    have read := reread_eq storable' (sized _ List.mem_cons_self)
    have later := ih storable' fun step mem => sized step (List.mem_cons_of_mem _ mem)
    simp only [storedCourse, read, later, bind, Except.bind]
    rfl

theorem storable_after (storable : l.Storable) (operations : List Operation) :
    (l.after operations).Storable := by
  apply course_induction (motive := fun _ l' => l'.Storable) storable
  intro _ _ _ _ _ _ tried storable
  exact tried.storable storable

/-- No ticket of a course is empty. -/
theorem start_lt_stop_of_mem_tickets {t : Ticket} (mem : t ∈ l.tickets operations) :
    t.start < t.stop := by
  revert t
  apply course_induction
    (motive := fun attempts _ => ∀ {t}, t ∈ attempts.filterMap Attempt.ticket? → t.start < t.stop)
  · simp
  · intro attempts l' operation result l'' _ tried nonempty t mem
    rw [List.filterMap_append, List.mem_append] at mem
    rcases mem with before | last
    · exact nonempty before
    · cases tried with
      | issued granted =>
        obtain rfl : t = _ := by simpa [Attempt.ticket?] using last
        exact start_lt_stop_of_issue granted
      | refused | drawn | settled | voided => simp [Attempt.ticket?] at last

/-- Whatever is tried on the lottery, it may be stored in between: the course is the same, and the
records that it leaves and the tickets that it sells are read back as they were stored. -/
structure Durable (l : Lottery) : Prop where
  course : ∀ steps : List (Operation × Bytes), (∀ step ∈ steps, step.2.length = width) →
    l.storedCourse steps = .ok (l.attempts (steps.map Prod.fst), l.after (steps.map Prod.fst))
  record : ∀ operations buffer, buffer.length = width →
    (l.after operations).reread buffer = .ok (l.after operations)
  ticket : ∀ operations, ∀ t ∈ l.tickets operations, ∀ buffer, buffer.length = Ticket.width →
    t.reread buffer = .ok t

/-- One buffer will do for the whole course. -/
theorem Durable.course_map (durable : l.Durable) (length : buffer.length = width) :
    l.storedCourse (operations.map (·, buffer)) = .ok (l.attempts operations, l.after operations) := by
  have stored := durable.course (operations.map (·, buffer)) (by simp [length])
  rwa [List.map_map, Function.comp_def, List.map_id'] at stored

/-- A lottery that was read from bytes or launched is durable. -/
theorem durable_of_read_or_launched
    (begun : (∃ bytes, decode bytes = .ok l) ∨
      ∃ authority vault feeAccount mint capacity deadline slot,
        launch authority vault feeAccount mint capacity deadline slot = .ok l) : l.Durable := by
  have storable : l.Storable := by
    rcases begun with ⟨bytes, read⟩ | ⟨_, _, _, _, _, _, _, launched⟩
    · exact (decode_eq_ok_iff.mp read).1
    · exact storable_of_launch launched
  constructor
  case course => exact fun steps sized => storedCourse_eq storable sized
  case record => exact fun operations buffer => reread_eq (storable_after storable operations)
  case ticket => exact fun operations t mem buffer => t.reread_eq (start_lt_stop_of_mem_tickets mem)

end Lottery

/-! ### Sample -/

/-- A drawn lottery with a number that it did not sell: it can be read, and no course leads to it. -/
def Sample.stray : Lottery :=
  { launched with kind := .drawn, number := 99, capacity := 18446744073709551615 }

/-- A voiding is refused, and a ticket that nobody bought is paid. -/
def Sample.strayCourse : List Lottery.Operation :=
  [.void 60, .settle lottery ⟨lottery, buyer, 90, 100⟩ 39]

/-- The sample lottery is stored over zeros between the operations and still draws its last number. The
stray one is settled from the record that was stored after the refusal. -/
theorem Lottery.durable_of_sample :
    launch Sample.authority Sample.vault Sample.feeAccount Sample.mint 100 50 20 =
        .ok Sample.launched ∧
      Sample.launched.storedCourse (Sample.course.map (·, List.replicate width 0)) =
        .ok (Sample.launched.attempts Sample.course,
          { Sample.launched with kind := .drawn, number := 59, sold := 60 }) ∧
      decode Sample.stray.encode = .ok Sample.stray ∧
      Sample.stray.storedCourse (Sample.strayCourse.map (·, List.replicate width 0)) =
        .ok ([⟨.void 60, .error .alreadyDrawn⟩,
            ⟨.settle Sample.lottery ⟨Sample.lottery, Sample.buyer, 90, 100⟩ 39,
              .ok (.settled ⟨38, 1⟩)⟩],
          { Sample.stray with kind := .settled }) := by
  have sample : Sample.launched.Durable :=
    durable_of_read_or_launched (.inr ⟨_, _, _, _, _, _, _, Sample.launch_eq⟩)
  have read : decode Sample.stray.encode = .ok Sample.stray :=
    decode_eq_ok_iff.mpr ⟨by decide, rfl⟩
  have stray : Sample.stray.Durable := durable_of_read_or_launched (.inl ⟨_, read⟩)
  refine ⟨Sample.launch_eq, ?_, read, ?_⟩
  · rw [sample.course_map List.length_replicate, Sample.after_course]
  · exact stray.course_map List.length_replicate

end RangeLottery
