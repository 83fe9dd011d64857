import RangeLottery.Proofs.Ledger.Funding
import RangeLottery.Proofs.Step.Session

/-!
How a step goes on. A session is followed part by part: behind each part that succeeds it goes on from
what that part left, and a part that fails is the end of it. The calls to other programs succeed where
the accounts are missing or available and the payer has the lamports.
-/

namespace RangeLottery

namespace Session

variable {α β : Type} {p q : Progress}

/-! ### Parts that leave the book alone -/

theorem runOn_bind_of_ok {m : Session α} {f : α → Session β} {a : α} (first : runOn m p = (.ok a, q)) :
    runOn (m >>= f) p = runOn (f a) q := by
  rw [runOn_bind, first]

theorem runOn_bind_of_error {m : Session α} {f : α → Session β} {fault : Fault}
    (first : (runOn m p).1 = .error fault) : (runOn (m >>= f) p).1 = .error fault := by
  rw [runOn_bind]
  cases ran : runOn m p with
  | mk result q =>
    rw [ran] at first
    cases first
    rfl

theorem exists_runOn_eq {m : Session α} {a : α} (done : (runOn m p).1 = .ok a) :
    ∃ q, runOn m p = (.ok a, q) :=
  ⟨_, Prod.ext done rfl⟩

theorem book_bind {f : Book → Session β} : runOn (book >>= f) p = runOn (f p.book) p :=
  runOn_bind_of_ok (runOn_book p)

theorem pass_bind {result : Except Fault α} {f : α → Session β} {a : α}
    (accepted : result = .ok a) : runOn (pass result >>= f) p = runOn (f a) p := by
  apply runOn_bind_of_ok
  rw [runOn_pass, accepted]

theorem accept_bind {result : Except Refusal α} {f : α → Session β} {a : α}
    (accepted : result = .ok a) : runOn (accept result >>= f) p = runOn (f a) p := by
  apply runOn_bind_of_ok
  rw [runOn_accept, accepted]
  rfl

theorem accept_bind_of_error {result : Except Refusal α} {f : α → Session β} {reason : Refusal}
    (refused : result = .error reason) :
    (runOn (accept result >>= f) p).1 = .error (.bare (.refusal reason)) := by
  apply runOn_bind_of_error
  rw [runOn_accept, refused]
  rfl

theorem remark_bind {r : Remark} {f : Unit → Session β} :
    runOn (remark r >>= f) p = runOn (f ()) { p with remarks := p.remarks ++ [r] } :=
  runOn_bind_of_ok (runOn_remark r p)

theorem remarkAll_bind {rs : List Remark} {f : Unit → Session β} :
    runOn (remarkAll rs >>= f) p = runOn (f ()) { p with remarks := p.remarks ++ rs } :=
  runOn_bind_of_ok (runOn_remarkAll rs p)

/-! ### Records -/

section Records

variable {key : Key} {l : Lottery} {t : Ticket}

theorem readLottery_bind {f : Lottery → Session β}
    (recorded : (p.book.account key).lottery? = some l) :
    runOn (readLottery key >>= f) p = runOn (f l) p := by
  obtain ⟨-, storable, stored⟩ := Account.lottery?_eq_some_iff.mp recorded
  have read : Lottery.decode (p.book.account key).data = .ok l := by
    rw [Lottery.decode, stored, Lottery.decode?_encode storable]
    rfl
  rw [readLottery, bind_assoc, book_bind, accept_bind read]

theorem readTicket_bind {f : Ticket → Session β}
    (recorded : (p.book.account key).ticket? = some t) :
    runOn (readTicket key >>= f) p = runOn (f t) p := by
  obtain ⟨-, nonempty, stored⟩ := Account.ticket?_eq_some_iff.mp recorded
  have read : Ticket.decode (p.book.account key).data = .ok t := by
    rw [Ticket.decode, stored, Ticket.decode?_encode nonempty]
    rfl
  rw [readTicket, bind_assoc, book_bind, accept_bind read]

theorem saveLottery_bind {f : Unit → Session β}
    (length : (p.book.account key).data.length = Lottery.width) :
    runOn (saveLottery key l >>= f) p =
      runOn (f ()) { p with book := p.book.modify key fun a => { a with data := l.encode } } := by
  simp only [saveLottery, Lottery.store, Record.store, Lottery.length_encode, length, if_true,
    bind_assoc, book_bind]
  rw [accept_bind rfl, runOn_bind_of_ok (runOn_write key l.encode p)]

theorem saveTicket_bind {f : Unit → Session β}
    (length : (p.book.account key).data.length = Ticket.width) :
    runOn (saveTicket key t >>= f) p =
      runOn (f ()) { p with book := p.book.modify key fun a => { a with data := t.encode } } := by
  simp only [saveTicket, Ticket.store, Record.store, Ticket.length_encode, length, if_true,
    bind_assoc, book_bind]
  rw [accept_bind rfl, runOn_bind_of_ok (runOn_write key t.encode p)]

end Records

/-! ### Calls to other programs -/

theorem exists_createRecord {payer target : Key} {width : Nat} (missing : p.book.Missing target)
    (affords : p.book.Affords payer (Account.rent width).toNat) (apart : target ≠ payer) :
    ∃ q, runOn (createRecord payer target width) p = (.ok (), q) := by
  obtain ⟨c, allocated, -⟩ := Book.exists_allocate (List.replicate width 0)
    Known.lotteryProgram missing affords apart
  apply exists_runOn_eq
  simp only [createRecord, runOn_bind, runOn_invoke, runOn_book, runOn_advance, allocated]

/-- The token account is there, or the payer opens it. -/
theorem exists_ensureAssociated (role : Role) {e : Entry} {payer wallet mint : Key}
    (address : e.key = Address.associated wallet mint) (writable : e.writable = true)
    (available : p.book.Available e.key wallet mint)
    (affords : p.book.Affords payer (p.book.rentDue e.key)) :
    ∃ q, runOn (ensureAssociated role e payer wallet mint) p = (.ok (), q) ∧
      (q.book.account payer).lamports.toNat + p.book.rentDue e.key =
        (p.book.account payer).lamports.toNat := by
  rcases available with missing | keeps
  · have due : p.book.rentDue e.key = (Account.rent TokenAccount.width).toNat :=
      if_pos missing.owner
    rw [due] at affords ⊢
    have apart := affords.ne_of_missing (by decide) missing
    obtain ⟨c, allocated, paid, funded⟩ := Book.exists_allocate
      (TokenAccount.encodeNew mint wallet) Known.tokenProgram missing affords apart
    have created := Book.allocated_of_allocate allocated
    rw [address] at allocated
    have handed : Address.associated wallet mint ∈
        [payer, e.key, wallet, mint, Known.systemProgram, Known.tokenProgram] := by
      simp [address]
    obtain ⟨q, opened⟩ : ∃ q, runOn (openAssociated payer e.key wallet mint) p = (.ok (), q) := by
      apply exists_runOn_eq
      simp only [openAssociated, runOn_bind, runOn_invoke, runOn_book, if_pos handed,
        runOn_advance, allocated]
    obtain rfl : c = q.book := Except.ok.inj (allocated.symm.trans (openAssociated_spec opened).1)
    have checked : Check.associated q.book role e wallet mint = .ok () := by
      refine Check.associated_eq_ok_iff.mpr ⟨address, ⟨0, ?_⟩, writable, ?_⟩
      · rw [Account.tokens?_eq_some_iff, created.owner_after, created.data_after]
        exact ⟨rfl, TokenAccount.decode_encodeNew mint wallet⟩
      · rw [Account.isRentExempt, created.data_after, funded,
          TokenAccount.length_of_decode (TokenAccount.decode_encodeNew mint wallet)]
        exact decide_eq_true (UInt64.le_refl _)
    refine ⟨q, ?_, paid⟩
    rw [ensureAssociated, book_bind, if_pos missing.owner, runOn_bind_of_ok opened, book_bind,
      runOn_pass, checked]
  · obtain ⟨amount, held⟩ := keeps.held
    have owned := (Account.tokens?_eq_some_iff.mp held).1
    have foreign : (p.book.account e.key).owner ≠ Known.systemProgram := by
      rw [owned]
      exact Known.tokenProgram_ne_systemProgram
    have checked : Check.associated p.book role e wallet mint = .ok () :=
      Check.associated_eq_ok_iff.mpr ⟨address, keeps.held, writable, keeps.rentExempt⟩
    refine ⟨p, ?_, by rw [Book.rentDue, if_neg foreign, Nat.add_zero]⟩
    rw [ensureAssociated, book_bind, if_neg foreign, book_bind, runOn_pass, checked]

section Transfer

variable {source mint destination authority : Key} {amount : UInt64} {decimals : UInt8}
  {seeds : List (List Bytes)} {paying receiving : TokenAccount}

theorem exists_transfer (mint authority : Key) (decimals : UInt8) (seeds : List (List Bytes))
    (held : (p.book.account source).tokens? = some paying)
    (held' : (p.book.account destination).tokens? = some receiving) (enough : amount ≤ paying.amount)
    (room : source = destination ∨ receiving.amount.toNat + amount.toNat < UInt64.size) :
    ∃ q, runOn (transfer source mint destination authority amount decimals seeds) p =
      (.ok (), q) := by
  unfold transfer
  split
  · exact ⟨p, rfl⟩
  · obtain ⟨c, moved⟩ := Book.exists_transfer held held' enough room
    apply exists_runOn_eq
    simp only [runOn_bind, runOn_invoke, runOn_book, runOn_advance, moved]

/-- A transfer that overflows is more than nothing, so it is called for. -/
theorem transfer_eq_amountOverflow (held : (p.book.account source).tokens? = some paying)
    (held' : (p.book.account destination).tokens? = some receiving) (enough : amount ≤ paying.amount)
    (apart : source ≠ destination)
    (full : UInt64.size ≤ receiving.amount.toNat + amount.toNat) :
    (runOn (transfer source mint destination authority amount decimals seeds) p).1 =
      .error (.bare (.ledger .amountOverflow)) := by
  have some : amount ≠ 0 := by
    rintro rfl
    exact absurd full (Nat.not_le.mpr receiving.amount.toNat_lt_size)
  have moved := Book.transfer_eq_amountOverflow held held' enough apart full
  unfold transfer
  simp only [if_neg some, runOn_bind, runOn_invoke, runOn_book, runOn_advance, moved]

end Transfer

end Session

end RangeLottery
