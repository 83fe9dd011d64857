import RangeLottery.Proofs.Step.Session
import RangeLottery.Step.Run

/-!
A step that ends in a fault announces nothing. Every part of a step is silent but the last, which
announces the event and cannot fail, so no fault comes after an announcement.
-/

namespace RangeLottery

namespace Session

variable {α β : Type}

/-- The session announces nothing, whatever becomes of it. -/
def Silent (m : Session α) : Prop :=
  ∀ p, (runOn m p).2.events = p.events

/-- The session has announced nothing if it ends in a fault. -/
def Discreet (m : Session α) : Prop :=
  ∀ p q fault, runOn m p = (.error fault, q) → q.events = p.events

theorem Silent.discreet {m : Session α} (silent : Silent m) : Discreet m := by
  intro p q fault ended
  have same := silent p
  rw [ended] at same
  exact same

theorem Silent.bind_discreet {m : Session α} {f : α → Session β} (silent : Silent m)
    (rest : ∀ a, Discreet (f a)) : Discreet (m >>= f) := by
  intro p q fault ended
  rcases runOn_bind_eq_error_iff.mp ended with failed | ⟨a, r, first, second⟩
  · exact silent.discreet p q fault failed
  · have same := silent p
    rw [first] at same
    exact (rest a r q fault second).trans same

theorem Silent.bind {m : Session α} {f : α → Session β} (silent : Silent m)
    (rest : ∀ a, Silent (f a)) : Silent (m >>= f) := by
  intro p
  have same := silent p
  rw [runOn_bind]
  cases first : runOn m p with
  | mk result q =>
    rw [first] at same
    cases result with
    | ok a => exact (rest a q).trans same
    | error fault => exact same

/-! ### Silent parts -/

theorem silent_pure (a : α) : Silent (pure a : Session α) := fun _ => rfl

theorem silent_throw (fault : Fault) : Silent (throw fault : Session α) := fun _ => rfl

/-- What would come after a fault does not matter. -/
theorem silent_throw_bind (fault : Fault) (f : α → Session β) : Silent (throw fault >>= f) :=
  fun _ => rfl

theorem silent_book : Silent book := fun _ => rfl

theorem silent_remark (r : Remark) : Silent (remark r) := fun _ => rfl

theorem silent_remarkAll (rs : List Remark) : Silent (remarkAll rs) := fun _ => rfl

theorem silent_write (key : Key) (data : Bytes) : Silent (write key data) := fun _ => rfl

theorem silent_invoke (call : Call) (seeds : List (List Bytes)) : Silent (invoke call seeds) :=
  fun _ => rfl

theorem silent_pass (result : Except Fault α) : Silent (pass result) := by
  intro p
  rw [runOn_pass]

theorem silent_accept (result : Except Refusal α) : Silent (accept result) := by
  intro p
  rw [runOn_accept]

theorem silent_advance (next : Except LedgerError Book) : Silent (advance next) := by
  intro p
  rw [runOn_advance]
  cases next <;> rfl

theorem silent_createRecord (payer target : Key) (width : Nat) :
    Silent (createRecord payer target width) :=
  (silent_invoke _ _).bind fun _ => silent_book.bind fun _ => silent_advance _

theorem silent_openAssociated (payer target wallet mint : Key) :
    Silent (openAssociated payer target wallet mint) := by
  refine (silent_invoke _ _).bind fun _ => silent_book.bind fun b => ?_
  split
  · exact silent_advance _
  · exact silent_throw _

theorem silent_ensureAssociated (role : Role) (e : Entry) (payer wallet mint : Key) :
    Silent (ensureAssociated role e payer wallet mint) := by
  have checking : Silent (do
      let after ← book
      pass (Check.associated after role e wallet mint)) :=
    silent_book.bind fun _ => silent_pass _
  refine silent_book.bind fun before => ?_
  split
  · exact (silent_openAssociated _ _ _ _).bind fun _ => checking
  · exact checking

theorem silent_transfer (source mint destination authority : Key) (amount : UInt64)
    (decimals : UInt8) (seeds : List (List Bytes)) :
    Silent (transfer source mint destination authority amount decimals seeds) := by
  unfold transfer
  split
  · exact silent_pure _
  · exact (silent_invoke _ _).bind fun _ => silent_book.bind fun _ => silent_advance _

theorem silent_readLottery (key : Key) : Silent (readLottery key) :=
  silent_book.bind fun _ => silent_accept _

theorem silent_readTicket (key : Key) : Silent (readTicket key) :=
  silent_book.bind fun _ => silent_accept _

theorem silent_saveLottery (key : Key) (l : Lottery) : Silent (saveLottery key l) :=
  silent_book.bind fun _ => (silent_accept _).bind fun _ => silent_write _ _

theorem silent_saveTicket (key : Key) (t : Ticket) : Silent (saveTicket key t) :=
  silent_book.bind fun _ => (silent_accept _).bind fun _ => silent_write _ _

/-- An announcement does not fail. -/
theorem discreet_announce (e : Event) : Discreet (announce e) := by
  intro p q fault ended
  cases ended

/-- What is remarked last is announced too. -/
theorem discreet_closing (r : Remark) (e : Event) :
    Discreet (do
      remark r
      announce e) :=
  (silent_remark r).bind_discreet fun _ => discreet_announce e

end Session

open Session

/-! ### Requests -/

theorem Opening.discreet_run (slot : UInt64) (entries : List Entry) (capacity deadline : UInt64) :
    Discreet (Opening.run slot entries capacity deadline) := by
  refine silent_book.bind_discreet fun b => (silent_pass _).bind_discreet fun a => ?_
  refine (silent_ensureAssociated _ _ _ _ _).bind_discreet fun _ => ?_
  refine (silent_ensureAssociated _ _ _ _ _).bind_discreet fun _ => ?_
  refine silent_book.bind_discreet fun ready => (silent_pass _).bind_discreet fun _ => ?_
  refine (silent_accept _).bind_discreet fun l => (silent_remark _).bind_discreet fun _ => ?_
  refine (silent_createRecord _ _ _).bind_discreet fun _ => ?_
  exact (silent_saveLottery _ _).bind_discreet fun _ => discreet_closing _ _

theorem Purchase.discreet_run (slot : UInt64) (entries : List Entry) (amount : UInt64) :
    Discreet (Purchase.run slot entries amount) := by
  refine silent_book.bind_discreet fun b => (silent_pass _).bind_discreet fun a => ?_
  refine silent_book.bind_discreet fun b => (silent_pass _).bind_discreet fun _ => ?_
  refine (silent_readLottery _).bind_discreet fun l => ?_
  refine (silent_pass _).bind_discreet fun _ => (silent_pass _).bind_discreet fun _ => ?_
  cases l.issue a.lottery.key a.buyer.key amount slot with
  | mk issued sold =>
    refine (silent_accept _).bind_discreet fun ticket => ?_
    dsimp only
    split
    · exact ((silent_remark _).bind fun _ => silent_throw_bind _ _).discreet
    · refine (silent_remark _).bind_discreet fun _ => ?_
      refine (silent_createRecord _ _ _).bind_discreet fun _ => ?_
      refine (silent_transfer _ _ _ _ _ _ _).bind_discreet fun _ => ?_
      refine (silent_saveTicket _ _).bind_discreet fun _ => ?_
      exact (silent_saveLottery _ _).bind_discreet fun _ => discreet_closing _ _

theorem Drawing.discreet_run (slot : UInt64) (entries : List Entry) :
    Discreet (Drawing.run slot entries) := by
  refine (silent_pass _).bind_discreet fun a => ?_
  refine silent_book.bind_discreet fun b => (silent_pass _).bind_discreet fun _ => ?_
  refine (silent_readLottery _).bind_discreet fun l => (silent_accept _).bind_discreet fun _ => ?_
  refine silent_book.bind_discreet fun b => (silent_remarkAll _).bind_discreet fun _ => ?_
  refine (silent_accept _).bind_discreet fun sample => ?_
  cases l.draw a.lottery.key sample slot with
  | mk drawn after =>
    refine (silent_remarkAll _).bind_discreet fun _ => ?_
    refine (silent_accept _).bind_discreet fun number => ?_
    exact (silent_saveLottery _ _).bind_discreet fun _ => discreet_closing _ _

theorem Settlement.discreet_run (entries : List Entry) : Discreet (Settlement.run entries) := by
  refine silent_book.bind_discreet fun b => (silent_pass _).bind_discreet fun a => ?_
  refine (silent_ensureAssociated _ _ _ _ _).bind_discreet fun _ => ?_
  refine silent_book.bind_discreet fun b => (silent_pass _).bind_discreet fun _ => ?_
  refine (silent_readLottery _).bind_discreet fun l => (silent_accept _).bind_discreet fun _ => ?_
  refine (silent_pass _).bind_discreet fun _ => (silent_pass _).bind_discreet fun _ => ?_
  refine (silent_pass _).bind_discreet fun _ => (silent_readTicket _).bind_discreet fun t => ?_
  refine (silent_pass _).bind_discreet fun _ => ?_
  cases l.settle a.lottery.key t a.vaultTokens.amount with
  | mk divided settled =>
    refine (silent_accept _).bind_discreet fun payout => ?_
    refine (silent_remark _).bind_discreet fun _ => ?_
    refine (silent_transfer _ _ _ _ _ _ _).bind_discreet fun _ => ?_
    refine (silent_remark _).bind_discreet fun _ => ?_
    refine (silent_transfer _ _ _ _ _ _ _).bind_discreet fun _ => ?_
    refine (silent_saveLottery _ _).bind_discreet fun _ => ?_
    exact (silent_accept _).bind_discreet fun _ => discreet_announce _

theorem Voiding.discreet_run (slot : UInt64) (entries : List Entry) :
    Discreet (Voiding.run slot entries) := by
  refine (silent_pass _).bind_discreet fun a => ?_
  refine silent_book.bind_discreet fun b => (silent_pass _).bind_discreet fun _ => ?_
  refine (silent_readLottery _).bind_discreet fun l => (silent_accept _).bind_discreet fun _ => ?_
  cases l.void slot with
  | mk closed after =>
    refine (silent_accept _).bind_discreet fun _ => ?_
    exact (silent_saveLottery _ _).bind_discreet fun _ => discreet_closing _ _

namespace Step

theorem discreet_serve (slot : UInt64) (entries : List Entry) (request : Request) :
    Discreet (serve slot entries request) := by
  cases request with
  | launch capacity deadline => exact Opening.discreet_run slot entries capacity deadline
  | buy amount => exact Purchase.discreet_run slot entries amount
  | draw => exact Drawing.discreet_run slot entries
  | settle => exact Settlement.discreet_run entries
  | void => exact Voiding.discreet_run slot entries

theorem discreet_session (s : Step) : Discreet s.session := by
  have serving : Discreet (do
      let request ← accept (Request.decode s.call.data)
      remark (.received request)
      serve s.slot s.call.accounts request) :=
    (silent_accept _).bind_discreet fun request =>
      (silent_remark _).bind_discreet fun _ => discreet_serve _ _ request
  unfold session
  split
  · exact (silent_throw_bind _ _).discreet
  · exact serving

/-- A step that ends in a fault announces nothing. -/
theorem events_of_fault {s : Step} {b : Book} {fault : Fault}
    (failed : (s.run b).result = .error fault) : (s.run b).events = [] := by
  unfold run at failed ⊢
  cases ran : runOn s.session (Progress.start b) with
  | mk result q =>
    rw [ran] at failed
    cases failed
    exact discreet_session s _ _ _ ran

end Step

end RangeLottery
