import RangeLottery.Proofs.Run.Moment
import RangeLottery.Proofs.Step.Answer
import RangeLottery.Proofs.Step.Calls

/-!
Checks come before effects. A step that the lottery refuses has called no other program but to open the
token accounts that an opening or a settlement may find missing. Once a step has called for anything else,
only the answer to its last call can end it: the records have their width by then and the payout is whole.
-/

namespace RangeLottery

open Session

/-! ### Opening -/

namespace Opening

variable {slot capacity deadline : UInt64} {entries : List Entry} {p : Progress}

/-- The calls that open the vault and the fee account. -/
def openings (b : Book) (entries : List Entry) : List Invocation :=
  match load b entries with
  | .ok a => [.opening a.authority.key a.vault.key a.custody.key a.mint.key,
      .opening a.authority.key a.feeAccount.key a.feeCollector.key a.mint.key]
  | .error _ => []

theorem not_takesEffect_of_mem_openings {b : Book} {i : Invocation} (mem : i ∈ openings b entries) :
    ¬ i.TakesEffect := by
  unfold openings at mem
  split at mem
  · simp only [List.mem_cons, List.not_mem_nil, or_false] at mem
    rcases mem with rfl | rfl
    · exact Invocation.not_takesEffect_opening _ _ _ _
    · exact Invocation.not_takesEffect_opening _ _ _ _
  · cases mem

/-- What an opening does once it is granted. -/
def enroll (a : Accounts) (l : Lottery) (capacity deadline : UInt64) : Session Unit := do
  remark .creatingLottery
  createRecord a.authority.key a.lottery.key Lottery.width
  saveLottery a.lottery.key l
  remark (.launched a.lottery.key capacity deadline)
  announce (.launched a.lottery.key a.authority.key capacity deadline a.mint.key)

theorem halts_enroll (a : Accounts) (l : Lottery) (made : List Invocation) :
    FaultsAs (enroll a l capacity deadline) p (Halts made) := by
  refine faultsAs_bind_of_ok (runOn_remark _ _) ?_
  refine FaultsAs.bind (halts_createRecord _ _ _) fun _ q creating => ?_
  refine faultsAs_of_ok (a := ()) ?_
  rw [saveLottery_bind (length_of_createRecord creating), remark_bind, runOn_announce]

theorem halts_run (idle : p.invocations = []) :
    FaultsAs (run slot entries capacity deadline) p (Halts (openings p.book entries)) := by
  have none : p.invocations.Sublist [] := List.sublist_nil.mpr idle
  refine faultsAs_bind_of_ok (runOn_book p) ?_
  refine (reads_pass _).faultsAs_bind (fun _ => .checking (none.trans (List.nil_sublist _)))
    fun a loaded => ?_
  obtain ⟨loaded, -⟩ := runOn_pass_eq_ok_iff.mp loaded
  rw [openings, loaded]
  refine FaultsAs.bind (halts_ensureAssociated (by simp [idle])) fun _ q vaulting => ?_
  have opened := sublist_of_ensureAssociated none vaulting
  refine FaultsAs.bind (halts_ensureAssociated ?_) fun _ r feeing => ?_
  · intro i mem
    rw [List.mem_singleton.mp (opened.subset mem)]
    exact Invocation.not_takesEffect_opening _ _ _ _
  have made := sublist_of_ensureAssociated opened feeing
  refine faultsAs_bind_of_ok (runOn_book r) ?_
  refine (reads_pass _).faultsAs_bind (fun _ => .checking made) fun _ _ => ?_
  refine (reads_accept _).faultsAs_bind (fun _ => .checking made) fun l _ => ?_
  exact halts_enroll a l _

end Opening

/-! ### Purchase -/

namespace Purchase

variable {slot amount : UInt64} {entries : List Entry} {a : Accounts} {p : Progress} {l : Lottery}

theorem halts_pay (loaded : Loaded p.book entries a) (checked : Checked p.book a)
    (before : (p.book.account a.lottery.key).lottery? = some l) (sold : Lottery) (t : Ticket) :
    FaultsAs (pay a sold t amount) p (Halts []) := by
  refine faultsAs_bind_of_ok (runOn_remark _ _) ?_
  refine FaultsAs.bind (halts_createRecord _ _ _) fun _ r creating => ?_
  refine FaultsAs.bind (halts_transfer _ _ _ _ _ _ _) fun _ s paying => ?_
  obtain ⟨stages, -⟩ := stages_of_calls creating paying loaded sold t
  -- The lottery has data and the ticket account had none, so the two records are written apart.
  have apart : a.lottery.key ≠ a.ticket.key := by
    intro same
    exact Account.data_ne_nil_of_lottery? before (same ▸ checked.ticket_vacant)
  refine faultsAs_of_ok (a := ()) ?_
  rw [saveTicket_bind stages.ticket_owned.2, saveLottery_bind, remark_bind, runOn_announce]
  rw [Book.account_modify_of_ne apart]
  exact (stages.evolves_paid.lottery_owned before).2

theorem halts_run (idle : p.invocations = []) :
    FaultsAs (run slot entries amount) p (Halts []) := by
  have here : ∀ fault, Halts [] fault p := fun _ => .checking (List.sublist_nil.mpr idle)
  refine faultsAs_bind_of_ok (runOn_book p) ?_
  refine (reads_pass _).faultsAs_bind here fun a loaded => ?_
  refine faultsAs_bind_of_ok (runOn_book p) ?_
  refine (reads_pass _).faultsAs_bind here fun _ checked => ?_
  refine (reads_readLottery _).faultsAs_bind here fun l read => ?_
  refine (reads_pass _).faultsAs_bind here fun _ _ => ?_
  refine (reads_pass _).faultsAs_bind here fun _ _ => ?_
  have loaded := load_eq_ok_iff.mp (runOn_pass_eq_ok_iff.mp loaded).1
  have checked := check_eq_ok_iff.mp (runOn_pass_eq_ok_iff.mp checked).1
  have before := lottery?_of_readLottery checked.lottery_owned read
  cases l.issue a.lottery.key a.buyer.key amount slot with
  | mk issued sold =>
    refine (reads_accept _).faultsAs_bind here fun t _ => ?_
    split
    · refine faultsAs_bind_of_ok (runOn_remark _ _) ?_
      refine (reads_throw _).faultsAs_bind (fun _ => .checking (List.sublist_nil.mpr idle)) ?_
      nofun
    · exact halts_pay loaded checked before sold t

end Purchase

/-! ### Drawing -/

namespace Drawing

variable {slot : UInt64} {entries : List Entry} {p : Progress}

theorem halts_run (idle : p.invocations = []) :
    FaultsAs (run slot entries) p (Halts []) := by
  have here : ∀ fault q, q.invocations = p.invocations → Halts [] fault q :=
    fun _ _ same => .checking (List.sublist_nil.mpr (same.trans idle))
  refine (reads_pass _).faultsAs_bind (here · p rfl) fun a _ => ?_
  refine faultsAs_bind_of_ok (runOn_book p) ?_
  refine (reads_pass _).faultsAs_bind (here · p rfl) fun _ _ => ?_
  refine (reads_readLottery _).faultsAs_bind (here · p rfl) fun l _ => ?_
  refine (reads_accept _).faultsAs_bind (here · p rfl) fun _ _ => ?_
  refine faultsAs_bind_of_ok (runOn_book p) ?_
  refine faultsAs_bind_of_ok (runOn_remarkAll _ _) ?_
  refine (reads_accept _).faultsAs_bind (here · _ rfl) fun sample _ => ?_
  cases l.draw a.lottery.key sample slot with
  | mk drawn after =>
    refine faultsAs_bind_of_ok (runOn_remarkAll _ _) ?_
    refine (reads_accept _).faultsAs_bind (here · _ rfl) fun number _ => ?_
    refine FaultsAs.bind (faultsAs_saveLottery (here · _ rfl)) fun _ q _ => ?_
    exact faultsAs_of_ok (a := ()) rfl

end Drawing

/-! ### Settlement -/

namespace Settlement

variable {entries : List Entry} {a : Accounts} {p : Progress} {l : Lottery}

/-- The call that opens the token account of the winner. -/
def openings (b : Book) (entries : List Entry) : List Invocation :=
  match load b entries with
  | .ok a => [.opening a.authority.key a.prizeAccount.key a.winner.key a.mint.key]
  | .error _ => []

theorem not_takesEffect_of_mem_openings {b : Book} {i : Invocation} (mem : i ∈ openings b entries) :
    ¬ i.TakesEffect := by
  unfold openings at mem
  split at mem
  · rw [List.mem_singleton.mp mem]
    exact Invocation.not_takesEffect_opening _ _ _ _
  · cases mem

theorem halts_pay {vaultTokens prizeTokens feeTokens : TokenAccount} {payout : Payout}
    {made : List Invocation} (before : (p.book.account a.lottery.key).lottery? = some l)
    (vault : (p.book.account a.vault.key).tokens? = some vaultTokens)
    (prize : (p.book.account a.prizeAccount.key).tokens? = some prizeTokens)
    (collector : (p.book.account a.feeAccount.key).tokens? = some feeTokens) {total : UInt64}
    (summed : payout.total = .ok total) (settled : Lottery) :
    FaultsAs (pay a settled payout) p (Halts made) := by
  refine faultsAs_bind_of_ok (runOn_remark _ _) ?_
  refine FaultsAs.bind (halts_transfer _ _ _ _ _ _ _) fun _ r rewarding => ?_
  refine faultsAs_bind_of_ok (runOn_remark _ _) ?_
  refine FaultsAs.bind (halts_transfer _ _ _ _ _ _ _) fun _ s paying => ?_
  -- The transfers keep token accounts and the length of every record, whichever accounts are one.
  obtain ⟨-, rewarded, -, -⟩ := transfer_spec rewarding vault prize
  obtain ⟨_, vault_left⟩ := rewarded.tokens _ _ vault
  obtain ⟨_, fee_received⟩ := rewarded.tokens _ _ collector
  obtain ⟨-, paid, -, -⟩ := transfer_spec paying vault_left fee_received
  refine faultsAs_of_ok (a := ()) ?_
  rw [saveLottery_bind ((rewarded.trans paid).lottery_owned before).2, accept_bind summed,
    runOn_announce]

theorem halts_run (idle : p.invocations = []) :
    FaultsAs (run entries) p (Halts (openings p.book entries)) := by
  have none : p.invocations.Sublist [] := List.sublist_nil.mpr idle
  refine faultsAs_bind_of_ok (runOn_book p) ?_
  refine (reads_pass _).faultsAs_bind (fun _ => .checking (none.trans (List.nil_sublist _)))
    fun a loaded => ?_
  obtain ⟨found, -⟩ := runOn_pass_eq_ok_iff.mp loaded
  have loaded := load_eq_ok_iff.mp found
  rw [openings, found]
  refine FaultsAs.bind (halts_ensureAssociated (by simp [idle])) fun _ q ensuring => ?_
  have made := sublist_of_ensureAssociated none ensuring
  have here : ∀ fault, Halts _ fault q := fun _ => .checking made
  refine faultsAs_bind_of_ok (runOn_book q) ?_
  refine (reads_pass _).faultsAs_bind here fun _ checked => ?_
  refine (reads_readLottery _).faultsAs_bind here fun l read => ?_
  refine (reads_accept _).faultsAs_bind here fun _ _ => ?_
  refine (reads_pass _).faultsAs_bind here fun _ _ => ?_
  refine (reads_pass _).faultsAs_bind here fun _ _ => ?_
  refine (reads_pass _).faultsAs_bind here fun _ _ => ?_
  refine (reads_readTicket _).faultsAs_bind here fun t _ => ?_
  refine (reads_pass _).faultsAs_bind here fun _ _ => ?_
  have checked := check_eq_ok_iff.mp (runOn_pass_eq_ok_iff.mp checked).1
  have before := lottery?_of_readLottery checked.lottery_owned read
  dsimp only
  cases settling : l.settle a.lottery.key t a.vaultTokens.amount with
  | mk divided settled =>
    refine (reads_accept _).faultsAs_bind here fun payout accepted => ?_
    obtain ⟨rfl, -⟩ := runOn_accept_eq_ok_iff.mp accepted
    obtain ⟨-, -, -, split, -⟩ := Lottery.settle_eq_ok_iff.mp settling
    obtain ⟨ensured, -⟩ := ensureAssociated_spec ensuring
    obtain ⟨_, prize⟩ := ensured.associated.tokens
    exact halts_pay before (ensured.tokens?_eq loaded.vault_held) prize
      (ensured.tokens?_eq loaded.feeAccount_held)
      (Payout.total_eq_ok_iff.mpr (Payout.split_eq_ok_iff.mp split).2) settled

end Settlement

/-! ### Voiding -/

namespace Voiding

variable {slot : UInt64} {entries : List Entry} {p : Progress}

theorem halts_run (idle : p.invocations = []) :
    FaultsAs (run slot entries) p (Halts []) := by
  have here : ∀ fault, Halts [] fault p := fun _ => .checking (List.sublist_nil.mpr idle)
  refine (reads_pass _).faultsAs_bind here fun a _ => ?_
  refine faultsAs_bind_of_ok (runOn_book p) ?_
  refine (reads_pass _).faultsAs_bind here fun _ _ => ?_
  refine (reads_readLottery _).faultsAs_bind here fun l _ => ?_
  refine (reads_accept _).faultsAs_bind here fun _ _ => ?_
  cases l.void slot with
  | mk closed after =>
    refine (reads_accept _).faultsAs_bind here fun _ _ => ?_
    refine FaultsAs.bind (faultsAs_saveLottery here) fun _ q _ => ?_
    exact faultsAs_of_ok (a := ()) rfl

end Voiding

/-! ### The step -/

namespace Step

variable {s : Step} {b : Book} {fault : Fault}

/-- The calls that the step may make before its checks are through: none unless it opens or settles a
lottery. -/
def openings (s : Step) (b : Book) : List Invocation :=
  match Request.decode s.call.data with
  | .ok (.launch _ _) => Opening.openings b s.call.accounts
  | .ok .settle => Settlement.openings b s.call.accounts
  | _ => []

/-- The book as it stands where the step ends, also when it ends in a fault. -/
def reached (s : Step) (b : Book) : Book :=
  (s.session.runOn (.start b)).2.book

/-- How a step that ends in `fault` came to it. When the lottery refuses, at most the token accounts of the
request were opened. When more than that was called for, the fault is the answer to the last call. -/
structure ChecksFirst (s : Step) (b : Book) (fault : Fault) : Prop where
  refused : fault.IsRefusal → (s.run b).invocations.Sublist (s.openings b)
  committed : ∀ i ∈ (s.run b).invocations, i.TakesEffect →
    ∃ earlier last error, (s.run b).invocations = earlier ++ [last] ∧
      last.RefusedOn (s.reached b) error ∧ fault = .bare (.ledger error)

theorem not_takesEffect_of_mem_openings {i : Invocation} (mem : i ∈ s.openings b) :
    ¬ i.TakesEffect := by
  unfold openings at mem
  cases decoded : Request.decode s.call.data with
  | error reason =>
    rw [decoded] at mem
    cases mem
  | ok request =>
    rw [decoded] at mem
    cases request with
    | launch capacity deadline => exact Opening.not_takesEffect_of_mem_openings mem
    | settle => exact Settlement.not_takesEffect_of_mem_openings mem
    | buy | draw | void => cases mem

theorem halts_serve {p : Progress} {request : Request} (idle : p.invocations = [])
    (decoded : Request.decode s.call.data = .ok request) :
    FaultsAs (serve s.slot s.call.accounts request) p (Halts (s.openings p.book)) := by
  rw [openings, decoded]
  cases request with
  | launch capacity deadline => exact Opening.halts_run idle
  | buy amount => exact Purchase.halts_run idle
  | draw => exact Drawing.halts_run idle
  | settle => exact Settlement.halts_run idle
  | void => exact Voiding.halts_run idle

theorem halts_session (s : Step) (b : Book) :
    FaultsAs s.session (.start b) (Halts (s.openings b)) := by
  have here : ∀ fault, Halts (s.openings b) fault (.start b) :=
    fun _ => .checking (List.nil_sublist _)
  unfold session
  split
  · exact (reads_throw _).faultsAs_bind here nofun
  refine (reads_accept _).faultsAs_bind here fun request decoded => ?_
  refine faultsAs_bind_of_ok (runOn_remark _ _) ?_
  exact halts_serve rfl (runOn_accept_eq_ok_iff.mp decoded).1

end Step

/-- Checks come before effects in every step: a refusal finds no call made but the openings of token
accounts that the request allows, and behind any other call only the answer of a called program is left to
go wrong. -/
theorem checks_before_effects {s : Step} {b : Book} {fault : Fault}
    (failed : (s.run b).result = .error fault) : s.ChecksFirst b fault := by
  have ended : runOn s.session (.start b) =
      (.error fault, (runOn s.session (.start b)).2) := Prod.ext failed rfl
  have invocations : (s.run b).invocations = (runOn s.session (.start b)).2.invocations := rfl
  have halts := s.halts_session b fault _ ended
  cases halts with
  | checking made =>
    refine ⟨fun _ => made, fun i mem effect => ?_⟩
    exact absurd effect (Step.not_takesEffect_of_mem_openings (made.subset mem))
  | ensuring cause made =>
    refine ⟨fun refusal => absurd refusal cause, fun i mem effect => ?_⟩
    exact absurd effect (made i mem)
  | calling made refused =>
    refine ⟨?_, fun _ _ _ => ⟨_, _, _, made, refused, rfl⟩⟩
    rintro ⟨reason, refusal⟩
    cases refusal

/-- The authority asks for a lottery of no numbers. -/
def Sample.emptyOpening : Step where
  slot := 20
  call := { Sample.opening.step.call with data := (Request.launch 0 50).encode }

/-- The book after the opening, with a buyer who cannot pay for a ticket account. -/
def Sample.unfunded : Book :=
  Sample.opened.put Sample.buyer (Sample.wallet 0)

/-- The opening is refused behind two opened token accounts, and the purchase fails in its first call. -/
theorem checks_before_effects_at_sample :
    Sample.emptyOpening.ChecksFirst Sample.book (.bare (.refusal .invalidCapacity)) ∧
      (Sample.emptyOpening.run Sample.book).invocations.length = 2 ∧
      Sample.purchase.step.ChecksFirst Sample.unfunded (.bare (.ledger .lackingLamports)) ∧
      ((Sample.purchase.step.run Sample.unfunded).invocations.map fun i => i.call.program) =
        [Known.systemProgram] := by
  have refused : (Sample.emptyOpening.run Sample.book).result =
        .error (.bare (.refusal .invalidCapacity)) ∧
      (Sample.emptyOpening.run Sample.book).invocations.length = 2 := by
    decide +kernel
  have lacking : (Sample.purchase.step.run Sample.unfunded).result =
        .error (.bare (.ledger .lackingLamports)) ∧
      ((Sample.purchase.step.run Sample.unfunded).invocations.map fun i => i.call.program) =
        [Known.systemProgram] := by
    decide +kernel
  exact ⟨checks_before_effects refused.1, refused.2, checks_before_effects lacking.1, lacking.2⟩

end RangeLottery
