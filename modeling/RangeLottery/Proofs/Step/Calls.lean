import RangeLottery.Proofs.Step.Continuation

/-!
The calls that a step makes to other programs, and how it ends in a fault. A session is followed part by
part, as when it succeeds, but with an eye on its faults: one that arises in a check, while at most token
accounts were opened, and one that is the answer of the program called last.
-/

namespace RangeLottery

/-! ### Calls to other programs -/

namespace Invocation

/-- Opens the token account at `address` that `wallet` keeps for `mint`. -/
def opening (payer address wallet mint : Key) : Invocation where
  call := {
    program := Known.associatedTokenProgram
    accounts := [Entry.mutableSigner payer, Entry.mutable address, Entry.reading wallet,
      Entry.reading mint, Entry.reading Known.systemProgram, Entry.reading Known.tokenProgram]
    data := [0] }
  seeds := []

/-- Creates an account of `width` bytes for the lottery program. -/
def creation (payer target : Key) (width : Nat) : Invocation where
  call := {
    program := Known.systemProgram
    accounts := [Entry.mutableSigner payer, Entry.mutableSigner target]
    data := Bytes.ofHalfWord 0 ++ Bytes.ofWord (Account.rent width)
      ++ Bytes.ofWord (UInt64.ofNat width) ++ Known.lotteryProgram.bytes }
  seeds := []

/-- Moves `amount` tokens. -/
def payment (source mint destination authority : Key) (amount : UInt64) (decimals : UInt8)
    (seeds : List (List Bytes)) : Invocation where
  call := {
    program := Known.tokenProgram
    accounts := [Entry.mutable source, Entry.reading mint, Entry.mutable destination,
      Entry.signing authority]
    data := 12 :: Bytes.ofWord amount ++ [decimals] }
  seeds := seeds

/-- The call does more than open a token account. -/
def TakesEffect (i : Invocation) : Prop :=
  i.call.program ≠ Known.associatedTokenProgram

/-- The program that is called answers with `error` on the book. -/
inductive RefusedOn (b : Book) : Invocation → LedgerError → Prop where
  | creation {payer target : Key} {width : Nat} {error : LedgerError}
      (refused : b.allocate payer target (Account.rent width) (List.replicate width 0)
        Known.lotteryProgram = .error error) :
      RefusedOn b (creation payer target width) error
  | payment {source mint destination authority : Key} {amount : UInt64} {decimals : UInt8}
      {seeds : List (List Bytes)} {error : LedgerError}
      (refused : b.transfer source destination amount = .error error) :
      RefusedOn b (payment source mint destination authority amount decimals seeds) error

theorem not_takesEffect_opening (payer address wallet mint : Key) :
    ¬ (opening payer address wallet mint).TakesEffect :=
  not_not_intro rfl

end Invocation

/-- The lottery itself refuses. -/
def Fault.IsRefusal (f : Fault) : Prop :=
  ∃ reason, f.cause = .refusal reason

/-! ### Faults of the checks -/

theorem Except.bind_eq_error_iff {ε α β : Type} {x : Except ε α} {f : α → Except ε β} {e : ε} :
    (x >>= f) = .error e ↔ x = .error e ∨ ∃ a, x = .ok a ∧ f a = .error e := by
  cases x <;> simp [bind, Except.bind]

namespace Check

variable {α β : Type} {x : Except Fault α} {f : α → Except Fault β} {b : Book} {role : Role}
  {e : Entry} {key wallet mint : Key} {condition : Violation}

/-- What the check may find wrong is no refusal. -/
def NeverRefuses (x : Except Fault α) : Prop :=
  ∀ fault, x = .error fault → ¬ fault.IsRefusal

theorem NeverRefuses.bind (first : NeverRefuses x) (rest : ∀ a, NeverRefuses (f a)) :
    NeverRefuses (x >>= f) := by
  intro fault failed
  rcases Except.bind_eq_error_iff.mp failed with failed | ⟨a, -, failed⟩
  · exact first fault failed
  · exact rest a fault failed

theorem neverRefuses_require {holds : Bool} {fault : Fault}
    (cause : fault.cause = .violation condition) : NeverRefuses (require holds fault) := by
  rintro fault' failed ⟨reason, refusal⟩
  unfold require at failed
  split at failed
  · cases failed
  · cases failed
    rw [cause] at refusal
    cases refusal

theorem neverRefuses_tokenAccount : NeverRefuses (tokenAccount b role key) := by
  rintro fault failed ⟨reason, refusal⟩
  simp only [tokenAccount, decoded] at failed
  split at failed
  · cases failed
    cases refusal
  · split at failed
    · cases failed
      cases refusal
    · cases read : TokenAccount.decode (b.account key).data with
      | ok tokens =>
        rw [read] at failed
        cases failed
      | error error =>
        rw [read] at failed
        cases failed
        cases refusal

/-- An account that is not the token account of a wallet is no refusal. -/
theorem neverRefuses_associated : NeverRefuses (associated b role e wallet mint) := by
  refine neverRefuses_tokenAccount.bind fun tokens => ?_
  refine (neverRefuses_require rfl).bind fun _ => ?_
  refine (neverRefuses_require rfl).bind fun _ => ?_
  refine (neverRefuses_require rfl).bind fun _ => ?_
  refine (neverRefuses_require rfl).bind fun _ => ?_
  exact neverRefuses_require rfl

end Check

namespace Session

variable {α β : Type} {m : Session α} {f : α → Session β} {p q : Progress}
  {ends : Fault → Progress → Prop}

/-! ### Parts that only read -/

/-- The session leaves everything as it is, whatever becomes of it. -/
def Reads (m : Session α) : Prop :=
  ∀ p, (runOn m p).2 = p

theorem reads_book : Reads book := fun _ => rfl

theorem reads_throw (fault : Fault) : Reads (throw fault : Session α) := fun _ => rfl

theorem reads_pass (result : Except Fault α) : Reads (pass result) := by
  intro p
  rw [runOn_pass]

theorem reads_accept (result : Except Refusal α) : Reads (accept result) := by
  intro p
  rw [runOn_accept]

theorem reads_readLottery (key : Key) : Reads (readLottery key) := by
  intro p
  rw [readLottery, book_bind, reads_accept]

theorem reads_readTicket (key : Key) : Reads (readTicket key) := by
  intro p
  rw [readTicket, book_bind, reads_accept]

/-- What is read from an account of the lottery program is its record. -/
theorem lottery?_of_readLottery {key : Key} {l : Lottery}
    (owned : (p.book.account key).owner = Known.lotteryProgram)
    (read : runOn (readLottery key) p = (.ok l, q)) : (p.book.account key).lottery? = some l := by
  rw [← bind_pure (readLottery key)] at read
  obtain ⟨_, decoded, same⟩ := readLottery_bind_eq_ok_iff.mp read
  cases same
  simpa [Account.lottery?, owned] using decoded

theorem snd_runOn_bind (reads : ∀ a, Reads (f a)) : (runOn (m >>= f) p).2 = (runOn m p).2 := by
  rw [runOn_bind]
  cases runOn m p with
  | mk result q =>
    cases result with
    | ok a => exact reads a q
    | error fault => rfl

/-! ### Faults, part by part -/

/-- A session that starts from `p` and ends in a fault ends so. -/
def FaultsAs (m : Session α) (p : Progress) (ends : Fault → Progress → Prop) : Prop :=
  ∀ fault q, runOn m p = (.error fault, q) → ends fault q

theorem FaultsAs.bind (first : FaultsAs m p ends)
    (rest : ∀ a q, runOn m p = (.ok a, q) → FaultsAs (f a) q ends) : FaultsAs (m >>= f) p ends := by
  intro fault q ended
  rcases runOn_bind_eq_error_iff.mp ended with failed | ⟨a, r, done, failed⟩
  · exact first fault q failed
  · exact rest a r done fault q failed

/-- What a part that only reads may find wrong leaves everything as it was. -/
theorem Reads.faultsAs_bind (reads : Reads m) (here : ∀ fault, ends fault p)
    (rest : ∀ a, runOn m p = (.ok a, p) → FaultsAs (f a) p ends) : FaultsAs (m >>= f) p ends := by
  refine FaultsAs.bind ?_ ?_
  · intro fault q failed
    obtain rfl : q = p := (congrArg Prod.snd failed).symm.trans (reads p)
    exact here fault
  · intro a q done
    obtain rfl : q = p := (congrArg Prod.snd done).symm.trans (reads p)
    exact rest a done

theorem faultsAs_bind_of_ok {a : α} (done : runOn m p = (.ok a, q)) (rest : FaultsAs (f a) q ends) :
    FaultsAs (m >>= f) p ends := by
  intro fault r ended
  rw [runOn_bind_of_ok done] at ended
  exact rest fault r ended

theorem faultsAs_of_ok {a : α} (done : (runOn m p).1 = .ok a) : FaultsAs m p ends := by
  intro fault q ended
  rw [ended] at done
  cases done

theorem faultsAs_saveLottery {key : Key} {l : Lottery} (here : ∀ fault, ends fault p) :
    FaultsAs (saveLottery key l) p ends := by
  refine faultsAs_bind_of_ok (runOn_book p) ?_
  refine (reads_accept _).faultsAs_bind here fun _ _ => ?_
  exact faultsAs_of_ok (congrArg Prod.fst (runOn_write key _ p))

/-! ### Faults before and after a call takes effect -/

/-- How a step ends in a fault that may open the token accounts of `openings`: in a check, when at most these
were opened; while one of them is opened; or by the answer of the program that was called last. -/
inductive Halts (openings : List Invocation) : Fault → Progress → Prop where
  | checking {fault : Fault} {q : Progress} (made : q.invocations.Sublist openings) :
      Halts openings fault q
  | ensuring {fault : Fault} {q : Progress} (cause : ¬ fault.IsRefusal)
      (made : ∀ i ∈ q.invocations, ¬ i.TakesEffect) : Halts openings fault q
  | calling {q : Progress} {earlier : List Invocation} {last : Invocation} {error : LedgerError}
      (made : q.invocations = earlier ++ [last]) (refused : last.RefusedOn q.book error) :
      Halts openings (.bare (.ledger error)) q

variable {openings : List Invocation}

theorem halts_createRecord (payer target : Key) (width : Nat) :
    FaultsAs (createRecord payer target width) p (Halts openings) := by
  intro fault q ended
  simp only [createRecord, runOn_bind, runOn_invoke, runOn_book, runOn_advance] at ended
  split at ended
  · cases ended
  · rename_i error refused
    cases ended
    exact .calling rfl (.creation refused)

theorem halts_transfer (source mint destination authority : Key) (amount : UInt64)
    (decimals : UInt8) (seeds : List (List Bytes)) :
    FaultsAs (transfer source mint destination authority amount decimals seeds) p
      (Halts openings) := by
  intro fault q ended
  unfold transfer at ended
  split at ended
  · cases ended
  · simp only [runOn_bind, runOn_invoke, runOn_book, runOn_advance] at ended
    split at ended
    · cases ended
    · rename_i error refused
      cases ended
      exact .calling rfl (.payment refused)

/-! ### Token accounts that may be missing -/

section Associated

variable {role : Role} {e : Entry} {payer wallet mint : Key}

theorem invocations_openAssociated (payer target wallet mint : Key) (p : Progress) :
    (runOn (openAssociated payer target wallet mint) p).2.invocations =
      p.invocations ++ [.opening payer (Address.associated wallet mint) wallet mint] := by
  simp only [openAssociated, runOn_bind, runOn_invoke, runOn_book]
  split
  · rw [runOn_advance]
    split <;> rfl
  · rfl

theorem neverRefuses_openAssociated (payer target wallet mint : Key) (p : Progress) :
    FaultsAs (openAssociated payer target wallet mint) p fun fault _ => ¬ fault.IsRefusal := by
  rintro fault q ended ⟨reason, refusal⟩
  simp only [openAssociated, runOn_bind, runOn_invoke, runOn_book] at ended
  split at ended
  · rw [runOn_advance] at ended
    split at ended
    · cases ended
    · cases ended
      cases refusal
  · cases ended
    cases refusal

/-- What is done about a token account once it is there. -/
def acceptAssociated (role : Role) (e : Entry) (wallet mint : Key) : Session Unit := do
  let after ← book
  pass (Check.associated after role e wallet mint)

theorem reads_acceptAssociated (role : Role) (e : Entry) (wallet mint : Key) :
    Reads (acceptAssociated role e wallet mint) := by
  intro p
  rw [acceptAssociated, book_bind, reads_pass]

theorem neverRefuses_acceptAssociated (role : Role) (e : Entry) (wallet mint : Key) (p : Progress) :
    FaultsAs (acceptAssociated role e wallet mint) p fun fault _ => ¬ fault.IsRefusal := by
  intro fault q ended
  rw [acceptAssociated, book_bind, runOn_pass] at ended
  exact Check.neverRefuses_associated fault (congrArg Prod.fst ended)

/-- A missing token account is opened first. -/
theorem ensureAssociated_eq (role : Role) (e : Entry) (payer wallet mint : Key) (p : Progress) :
    runOn (ensureAssociated role e payer wallet mint) p =
      if (p.book.account e.key).owner = Known.systemProgram then
        runOn (openAssociated payer e.key wallet mint >>= fun _ =>
          acceptAssociated role e wallet mint) p
      else runOn (acceptAssociated role e wallet mint) p := by
  rw [ensureAssociated, book_bind]
  split <;> rfl

/-- At most one call is made, and it opens the token account of the wallet. -/
theorem invocations_ensureAssociated (role : Role) (e : Entry) (payer wallet mint : Key)
    (p : Progress) :
    ∃ made, (runOn (ensureAssociated role e payer wallet mint) p).2.invocations =
        p.invocations ++ made ∧
      made.Sublist [.opening payer (Address.associated wallet mint) wallet mint] := by
  rw [ensureAssociated_eq]
  split
  · rw [snd_runOn_bind fun _ => reads_acceptAssociated role e wallet mint,
      invocations_openAssociated]
    exact ⟨_, rfl, .refl _⟩
  · rw [reads_acceptAssociated]
    exact ⟨[], (List.append_nil _).symm, List.nil_sublist _⟩

theorem neverRefuses_ensureAssociated (role : Role) (e : Entry) (payer wallet mint : Key)
    (p : Progress) :
    FaultsAs (ensureAssociated role e payer wallet mint) p fun fault _ => ¬ fault.IsRefusal := by
  intro fault q ended
  rw [ensureAssociated_eq] at ended
  split at ended
  · exact (neverRefuses_openAssociated payer e.key wallet mint p).bind
      (fun _ r _ => neverRefuses_acceptAssociated role e wallet mint r) fault q ended
  · exact neverRefuses_acceptAssociated role e wallet mint p fault q ended

/-- A token account that is not ensured is not refused, and at most it was opened. -/
theorem halts_ensureAssociated (idle : ∀ i ∈ p.invocations, ¬ i.TakesEffect) :
    FaultsAs (ensureAssociated role e payer wallet mint) p (Halts openings) := by
  intro fault q ended
  refine .ensuring (neverRefuses_ensureAssociated role e payer wallet mint p fault q ended) ?_
  obtain ⟨made, invocations, opened⟩ := invocations_ensureAssociated role e payer wallet mint p
  rw [ended] at invocations
  intro i mem
  rw [invocations] at mem
  rcases List.mem_append.mp mem with before | now
  · exact idle i before
  · rw [List.mem_singleton.mp (opened.subset now)]
    exact Invocation.not_takesEffect_opening _ _ _ _

/-- The token account that is ensured is the one that may have been opened. -/
theorem sublist_of_ensureAssociated (made : p.invocations.Sublist openings)
    (done : runOn (ensureAssociated role e payer wallet mint) p = (.ok (), q)) :
    q.invocations.Sublist (openings ++ [.opening payer e.key wallet mint]) := by
  obtain ⟨now, invocations, opened⟩ := invocations_ensureAssociated role e payer wallet mint p
  rw [done] at invocations
  change q.invocations = _ at invocations
  rw [← (ensureAssociated_spec done).1.associated.address] at opened
  rw [invocations]
  exact made.append opened

end Associated

end Session

end RangeLottery
