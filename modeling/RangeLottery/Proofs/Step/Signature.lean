import RangeLottery.Proofs.Step.Calls
import RangeLottery.Proofs.Step.Opening
import RangeLottery.Proofs.Step.Purchase
import RangeLottery.Proofs.Step.Settlement
import RangeLottery.Step.Run

/-!
The signatures on the calls of a step. A call to another program lists who signs it, and the programs that
are called rely on that list. Main statement: a step passes on no signature that it does not have. Whoever
signs one of its calls signs the step too, or is an address that the lottery program derives from seeds that
go with the call. This also holds of the calls of a step that ends in a fault.
-/

namespace RangeLottery

/-- Some entry of the call is `key` as a signer. -/
def Call.SignedBy (c : Call) (key : Key) : Prop :=
  ∃ e ∈ c.accounts, e.signer = true ∧ e.key = key

/-! ### Signatures of a call -/

namespace Invocation

variable {c : Call} {payer address target wallet mint source destination authority : Key}
  {amount : UInt64} {decimals : UInt8} {seeds : List (List Bytes)}

/-- Whoever signs the call signs `c`, or the lottery program derives it from seeds that go with the call. -/
def SignedWithin (c : Call) (i : Invocation) : Prop :=
  ∀ key, i.call.SignedBy key →
    c.SignedBy key ∨ ∃ seeds ∈ i.seeds, Address.digest seeds Known.lotteryProgram = key

theorem SignedWithin.opening (payer_signs : c.SignedBy payer) :
    SignedWithin c (opening payer address wallet mint) := by
  rintro key ⟨e, mem, signer, rfl⟩
  simp only [Invocation.opening, List.mem_cons, List.not_mem_nil, or_false] at mem
  rcases mem with rfl | rfl | rfl | rfl | rfl | rfl
  · exact .inl payer_signs
  all_goals cases signer

theorem SignedWithin.creation (payer_signs : c.SignedBy payer) (target_signs : c.SignedBy target)
    (width : Nat) : SignedWithin c (creation payer target width) := by
  rintro key ⟨e, mem, -, rfl⟩
  simp only [Invocation.creation, List.mem_cons, List.not_mem_nil, or_false] at mem
  rcases mem with rfl | rfl
  · exact .inl payer_signs
  · exact .inl target_signs

theorem SignedWithin.payment
    (authority_signs : c.SignedBy authority ∨
      ∃ group ∈ seeds, Address.digest group Known.lotteryProgram = authority) :
    SignedWithin c (payment source mint destination authority amount decimals seeds) := by
  rintro key ⟨e, mem, signer, rfl⟩
  simp only [Invocation.payment, List.mem_cons, List.not_mem_nil, or_false] at mem
  rcases mem with rfl | rfl | rfl | rfl
  · cases signer
  · cases signer
  · cases signer
  · exact authority_signs

end Invocation

/-! ### Sessions and their calls -/

namespace Session

variable {α β : Type} {m : Session α} {f : α → Session β} {good : Invocation → Prop}

/-- Every call that the session makes is good, also if it ends in a fault. -/
def CallsOnly (good : Invocation → Prop) (m : Session α) : Prop :=
  ∀ p, ∃ made, (runOn m p).2.invocations = p.invocations ++ made ∧ ∀ i ∈ made, good i

theorem CallsOnly.bind (first : CallsOnly good m) (rest : ∀ a, CallsOnly good (f a)) :
    CallsOnly good (m >>= f) := by
  intro p
  obtain ⟨made, made_eq, made_good⟩ := first p
  rw [runOn_bind]
  cases ended : runOn m p with
  | mk result q =>
    rw [ended] at made_eq
    cases result with
    | error fault => exact ⟨made, made_eq, made_good⟩
    | ok a =>
      obtain ⟨more, more_eq, more_good⟩ := rest a q
      refine ⟨made ++ more, ?_, ?_⟩
      · rw [← List.append_assoc, ← made_eq]
        exact more_eq
      · intro i mem
        rcases List.mem_append.mp mem with before | now
        · exact made_good i before
        · exact more_good i now

/-- What comes after a check may rely on it. -/
theorem CallsOnly.of_check {check : Book → Except Fault α}
    (rest : ∀ b a, check b = .ok a → CallsOnly good (f a)) :
    CallsOnly good (book >>= fun b => pass (check b) >>= f) := by
  intro p
  rw [book_bind]
  cases checked : check p.book with
  | error fault => exact ⟨[], (List.append_nil _).symm, nofun⟩
  | ok a =>
    rw [pass_bind rfl]
    exact rest p.book a checked p

theorem callsOnly_of_eq (same : ∀ p, (runOn m p).2.invocations = p.invocations) :
    CallsOnly good m := by
  intro p
  exact ⟨[], (same p).trans (List.append_nil _).symm, nofun⟩

theorem Reads.callsOnly (reads : Reads m) : CallsOnly good m :=
  callsOnly_of_eq fun p => congrArg Progress.invocations (reads p)

theorem callsOnly_remark (r : Remark) : CallsOnly good (remark r) := callsOnly_of_eq fun _ => rfl

theorem callsOnly_remarkAll (rs : List Remark) : CallsOnly good (remarkAll rs) :=
  callsOnly_of_eq fun _ => rfl

theorem callsOnly_announce (e : Event) : CallsOnly good (announce e) := callsOnly_of_eq fun _ => rfl

theorem callsOnly_write (key : Key) (data : Bytes) : CallsOnly good (write key data) :=
  callsOnly_of_eq fun _ => rfl

theorem callsOnly_saveLottery (key : Key) (l : Lottery) : CallsOnly good (saveLottery key l) :=
  reads_book.callsOnly.bind fun _ =>
    (reads_accept _).callsOnly.bind fun _ => callsOnly_write _ _

theorem callsOnly_saveTicket (key : Key) (t : Ticket) : CallsOnly good (saveTicket key t) :=
  reads_book.callsOnly.bind fun _ =>
    (reads_accept _).callsOnly.bind fun _ => callsOnly_write _ _

/-- Once a record is saved, nothing more is called. -/
theorem callsOnly_closing (key : Key) (l : Lottery) (r : Remark) (e : Event) :
    CallsOnly good (do
      saveLottery key l
      remark r
      announce e) :=
  (callsOnly_saveLottery _ _).bind fun _ => (callsOnly_remark _).bind fun _ => callsOnly_announce _

theorem callsOnly_advance (next : Except LedgerError Book) : CallsOnly good (advance next) := by
  refine callsOnly_of_eq fun p => ?_
  rw [runOn_advance]
  cases next <;> rfl

/-- A call is put on record before it is answered. -/
theorem callsOnly_invoke {i : Invocation} (admitted : good i) {next : Book → Except LedgerError Book} :
    CallsOnly good (do
      invoke i.call i.seeds
      let b ← book
      advance (next b)) := by
  have recorded : CallsOnly good (invoke i.call i.seeds) := by
    intro p
    exact ⟨[i], rfl, List.forall_mem_singleton.mpr admitted⟩
  exact recorded.bind fun _ => reads_book.callsOnly.bind fun _ => callsOnly_advance _

variable {payer target wallet mint source destination authority : Key} {width : Nat} {role : Role}
  {e : Entry} {amount : UInt64} {decimals : UInt8} {seeds : List (List Bytes)}

theorem callsOnly_createRecord (admitted : good (.creation payer target width)) :
    CallsOnly good (createRecord payer target width) :=
  callsOnly_invoke admitted

theorem callsOnly_transfer
    (admitted : good (.payment source mint destination authority amount decimals seeds)) :
    CallsOnly good (transfer source mint destination authority amount decimals seeds) := by
  unfold transfer
  split
  · exact callsOnly_of_eq fun _ => rfl
  · exact callsOnly_invoke admitted

theorem callsOnly_ensureAssociated
    (admitted : good (.opening payer (Address.associated wallet mint) wallet mint)) :
    CallsOnly good (ensureAssociated role e payer wallet mint) := by
  intro p
  obtain ⟨made, invocations, opened⟩ := invocations_ensureAssociated role e payer wallet mint p
  refine ⟨made, invocations, fun i mem => ?_⟩
  rwa [List.mem_singleton.mp (opened.subset mem)]

end Session

open Session

/-! ### Requests -/

section Requests

variable {slot capacity deadline amount : UInt64} {c : Call}

theorem Call.signedBy_of_listed {place : Nat} {e : Entry} (listed : c.accounts[place]? = some e)
    (signer : e.signer = true) : c.SignedBy e.key :=
  ⟨e, List.mem_of_getElem? listed, signer, rfl⟩

theorem Opening.callsOnly_run :
    CallsOnly (Invocation.SignedWithin c) (Opening.run slot c.accounts capacity deadline) := by
  refine .of_check fun b a found => ?_
  have loaded := load_eq_ok_iff.mp found
  have lottery := Call.signedBy_of_listed loaded.lottery loaded.lottery_signs
  have authority := Call.signedBy_of_listed loaded.authority loaded.authority_signs
  refine (callsOnly_ensureAssociated (.opening authority)).bind fun _ => ?_
  refine (callsOnly_ensureAssociated (.opening authority)).bind fun _ => ?_
  refine .of_check fun ready _ _ => (reads_accept _).callsOnly.bind fun l => ?_
  refine (callsOnly_remark _).bind fun _ => ?_
  exact (callsOnly_createRecord (.creation authority lottery _)).bind fun _ =>
    callsOnly_closing _ _ _ _

theorem Purchase.callsOnly_run :
    CallsOnly (Invocation.SignedWithin c) (Purchase.run slot c.accounts amount) := by
  refine .of_check fun b a found => ?_
  have loaded := load_eq_ok_iff.mp found
  have ticket := Call.signedBy_of_listed loaded.ticket loaded.ticket_signs
  have buyer := Call.signedBy_of_listed loaded.buyer loaded.buyer_signs
  refine .of_check fun _ _ _ => (reads_readLottery _).callsOnly.bind fun l => ?_
  refine (reads_pass _).callsOnly.bind fun _ => (reads_pass _).callsOnly.bind fun _ => ?_
  cases l.issue a.lottery.key a.buyer.key amount slot with
  | mk issued sold =>
    refine (reads_accept _).callsOnly.bind fun t => ?_
    split
    · exact callsOnly_of_eq fun _ => rfl
    · refine (callsOnly_remark _).bind fun _ => ?_
      refine (callsOnly_createRecord (.creation buyer ticket _)).bind fun _ => ?_
      refine (callsOnly_transfer (.payment (.inl buyer))).bind fun _ => ?_
      exact (callsOnly_saveTicket _ _).bind fun _ => callsOnly_closing _ _ _ _

/-- A draw calls nobody. -/
theorem Drawing.callsOnly_run {good : Invocation → Prop} {entries : List Entry} :
    CallsOnly good (Drawing.run slot entries) := by
  refine (reads_pass _).callsOnly.bind fun a => .of_check fun _ _ _ => ?_
  refine (reads_readLottery _).callsOnly.bind fun l => (reads_accept _).callsOnly.bind fun _ => ?_
  refine reads_book.callsOnly.bind fun _ => (callsOnly_remarkAll _).bind fun _ => ?_
  refine (reads_accept _).callsOnly.bind fun sample => ?_
  cases l.draw a.lottery.key sample slot with
  | mk drawn after =>
    refine (callsOnly_remarkAll _).bind fun _ => ?_
    exact (reads_accept _).callsOnly.bind fun _ => callsOnly_closing _ _ _ _

theorem Settlement.callsOnly_run :
    CallsOnly (Invocation.SignedWithin c) (Settlement.run c.accounts) := by
  refine .of_check fun b a found => ?_
  have loaded := load_eq_ok_iff.mp found
  have authority := Call.signedBy_of_listed loaded.authority loaded.authority_signs
  refine (callsOnly_ensureAssociated (.opening authority)).bind fun _ => ?_
  refine .of_check fun ready _ checked => ?_
  -- The custody address signs no step: the seeds of the lottery stand in for it.
  have custody : ∃ seeds ∈ [custodySeeds a.lottery.key],
      Address.digest seeds Known.lotteryProgram = a.custody.key :=
    ⟨_, List.mem_singleton_self _,
      (digest_custodySeeds _).trans (check_eq_ok_iff.mp checked).custody.symm⟩
  refine (reads_readLottery _).callsOnly.bind fun l => (reads_accept _).callsOnly.bind fun _ => ?_
  refine (reads_pass _).callsOnly.bind fun _ => (reads_pass _).callsOnly.bind fun _ => ?_
  refine (reads_pass _).callsOnly.bind fun _ => (reads_readTicket _).callsOnly.bind fun t => ?_
  refine (reads_pass _).callsOnly.bind fun _ => ?_
  cases l.settle a.lottery.key t a.vaultTokens.amount with
  | mk divided settled =>
    refine (reads_accept _).callsOnly.bind fun payout => (callsOnly_remark _).bind fun _ => ?_
    refine (callsOnly_transfer (.payment (.inr custody))).bind fun _ => ?_
    refine (callsOnly_remark _).bind fun _ => ?_
    refine (callsOnly_transfer (.payment (.inr custody))).bind fun _ => ?_
    refine (callsOnly_saveLottery _ _).bind fun _ => ?_
    exact (reads_accept _).callsOnly.bind fun _ => callsOnly_announce _

/-- A voiding calls nobody. -/
theorem Voiding.callsOnly_run {good : Invocation → Prop} {entries : List Entry} :
    CallsOnly good (Voiding.run slot entries) := by
  refine (reads_pass _).callsOnly.bind fun a => .of_check fun _ _ _ => ?_
  refine (reads_readLottery _).callsOnly.bind fun l => (reads_accept _).callsOnly.bind fun _ => ?_
  cases l.void slot with
  | mk closed after =>
    exact (reads_accept _).callsOnly.bind fun _ => callsOnly_closing _ _ _ _

end Requests

theorem Step.callsOnly_session (s : Step) :
    CallsOnly (Invocation.SignedWithin s.call) s.session := by
  unfold session
  split
  · exact callsOnly_of_eq fun _ => rfl
  refine (reads_accept _).callsOnly.bind fun request => (callsOnly_remark _).bind fun _ => ?_
  cases request with
  | launch capacity deadline => exact Opening.callsOnly_run
  | buy amount => exact Purchase.callsOnly_run
  | draw => exact Drawing.callsOnly_run
  | settle => exact Settlement.callsOnly_run
  | void => exact Voiding.callsOnly_run

/-- The calls of a step are signed by those who signed the step and by addresses of the lottery program
whose seeds it passes on. -/
theorem calls_signed (s : Step) (b : Book) :
    ∀ i ∈ (s.run b).invocations, i.SignedWithin s.call := by
  obtain ⟨made, made_eq, signed⟩ := s.callsOnly_session (.start b)
  have invocations : (s.run b).invocations = made := made_eq
  rwa [invocations]

end RangeLottery
