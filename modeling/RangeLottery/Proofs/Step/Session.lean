import RangeLottery.Proofs.Step.Check

/-!
What the parts of a step do to the book when they succeed. None of them announces anything, so the
events of a step are those that it announces itself.
-/

namespace RangeLottery

/-- The account of `e` is the token account that `wallet` keeps for `mint`. It was there before, or it
was an empty account of the system program and `payer` paid for it. -/
structure Book.Ensured (b c : Book) (e : Entry) (payer wallet mint : Key) : Prop where
  associated : Check.Associated c e wallet mint
  opened : c = b ∨
    ((b.account e.key).owner = Known.systemProgram ∧ (b.account e.key).data = [])
  balance : ∀ key, (c.account key).balance = (b.account key).balance
  evolves : b.Evolves c
  confined : b.Confined c [e.key] [payer, e.key]

namespace Book.Ensured

variable {b c : Book} {e : Entry} {payer wallet mint : Key}

/-- What the lottery program owns is neither opened as a token account nor one already. -/
theorem foreign (ensured : b.Ensured c e payer wallet mint) :
    (b.account e.key).owner ≠ Known.lotteryProgram := by
  intro owned
  rcases ensured.opened with rfl | ⟨unopened, -⟩
  · obtain ⟨_, held⟩ := ensured.associated.tokens
    rw [Account.tokens?_eq_none_of_owner owned] at held
    cases held
  · exact Known.lotteryProgram_ne_systemProgram (owned.symm.trans unopened)

theorem owned (ensured : b.Ensured c e payer wallet mint) {key : Key}
    (owned : (b.account key).owner = Known.lotteryProgram) :
    (c.account key).owner = Known.lotteryProgram := by
  have outside : key ∉ [e.key] := by
    intro mem
    rw [List.mem_singleton.mp mem] at owned
    exact ensured.foreign owned
  rw [(ensured.confined.holding key outside).owner, owned]

end Book.Ensured

namespace Session

variable {p q : Progress} {u : Unit}

theorem runOn_advance_eq_ok_iff {next : Except LedgerError Book} :
    runOn (advance next) p = (.ok u, q) ↔ ∃ b, next = .ok b ∧ q = { p with book := b } := by
  rw [runOn_advance]
  cases next <;> simp [eq_comm]

theorem runOn_pass_eq_ok_iff {α : Type} {result : Except Fault α} {a : α} :
    runOn (pass result) p = (.ok a, q) ↔ result = .ok a ∧ q = p := by
  simp [eq_comm]

theorem runOn_accept_eq_ok_iff {α : Type} {result : Except Refusal α} {a : α} :
    runOn (accept result) p = (.ok a, q) ↔ result = .ok a ∧ q = p := by
  rw [runOn_accept, Prod.mk.injEq, Except.mapError_eq_ok_iff, eq_comm (a := p)]

/-! ### Going on after a part that leaves the book alone -/

section Continue

variable {α β : Type} {f : α → Session β} {y : β}

theorem book_bind_eq_ok_iff {f : Book → Session β} :
    runOn (book >>= f) p = (.ok y, q) ↔ runOn (f p.book) p = (.ok y, q) := by
  rw [runOn_bind, runOn_book]

theorem pass_bind_eq_ok_iff {result : Except Fault α} :
    runOn (pass result >>= f) p = (.ok y, q) ↔
      ∃ x, result = .ok x ∧ runOn (f x) p = (.ok y, q) := by
  rw [runOn_bind, runOn_pass]
  cases result <;> simp

theorem accept_bind_eq_ok_iff {result : Except Refusal α} :
    runOn (accept result >>= f) p = (.ok y, q) ↔
      ∃ x, result = .ok x ∧ runOn (f x) p = (.ok y, q) := by
  rw [runOn_bind, runOn_accept]
  cases result with
  | error => exact ⟨nofun, nofun⟩
  | ok x => exact ⟨fun runs => ⟨x, rfl, runs⟩, fun ⟨_, rfl, runs⟩ => runs⟩

theorem remark_bind_eq_ok_iff {r : Remark} {f : Unit → Session β} :
    runOn (remark r >>= f) p = (.ok y, q) ↔
      runOn (f ()) { p with remarks := p.remarks ++ [r] } = (.ok y, q) := by
  rw [runOn_bind, runOn_remark]

theorem remarkAll_bind_eq_ok_iff {rs : List Remark} {f : Unit → Session β} :
    runOn (remarkAll rs >>= f) p = (.ok y, q) ↔
      runOn (f ()) { p with remarks := p.remarks ++ rs } = (.ok y, q) := by
  rw [runOn_bind, runOn_remarkAll]

end Continue

/-! ### Records -/

section Records

variable {β : Type} {y : β} {key : Key}

theorem readLottery_bind_eq_ok_iff {f : Lottery → Session β} :
    runOn (readLottery key >>= f) p = (.ok y, q) ↔
      ∃ l, Lottery.decode? (p.book.account key).data = some l ∧
        runOn (f l) p = (.ok y, q) := by
  simp only [readLottery, bind_assoc, book_bind_eq_ok_iff, accept_bind_eq_ok_iff, Lottery.decode]
  cases Lottery.decode? (p.book.account key).data <;> simp

theorem readTicket_bind_eq_ok_iff {f : Ticket → Session β} :
    runOn (readTicket key >>= f) p = (.ok y, q) ↔
      ∃ t, Ticket.decode? (p.book.account key).data = some t ∧
        runOn (f t) p = (.ok y, q) := by
  simp only [readTicket, bind_assoc, book_bind_eq_ok_iff, accept_bind_eq_ok_iff, Ticket.decode]
  cases Ticket.decode? (p.book.account key).data <;> simp

theorem saveLottery_bind_eq_ok_iff {l : Lottery} {f : Unit → Session β} :
    runOn (saveLottery key l >>= f) p = (.ok y, q) ↔
      (p.book.account key).data.length = Lottery.width ∧
        runOn (f ()) { p with book := p.book.modify key fun a => { a with data := l.encode } } =
          (.ok y, q) := by
  simp only [saveLottery, Lottery.store, Record.store, Lottery.length_encode, bind_assoc,
    book_bind_eq_ok_iff, accept_bind_eq_ok_iff]
  by_cases fits : (p.book.account key).data.length = Lottery.width
  · simp [fits, runOn_bind]
  · simp [fits]

theorem saveTicket_bind_eq_ok_iff {t : Ticket} {f : Unit → Session β} :
    runOn (saveTicket key t >>= f) p = (.ok y, q) ↔
      (p.book.account key).data.length = Ticket.width ∧
        runOn (f ()) { p with book := p.book.modify key fun a => { a with data := t.encode } } =
          (.ok y, q) := by
  simp only [saveTicket, Ticket.store, Record.store, Ticket.length_encode, bind_assoc,
    book_bind_eq_ok_iff, accept_bind_eq_ok_iff]
  by_cases fits : (p.book.account key).data.length = Ticket.width
  · simp [fits, runOn_bind]
  · simp [fits]

end Records

/-! ### Calls to other programs -/

theorem createRecord_spec {payer target : Key} {width : Nat}
    (done : runOn (createRecord payer target width) p = (.ok u, q)) :
    p.book.allocate payer target (Account.rent width) (List.replicate width 0)
        Known.lotteryProgram = .ok q.book ∧
      q.events = p.events := by
  simp only [createRecord, runOn_bind, runOn_invoke, runOn_book, runOn_advance_eq_ok_iff] at done
  obtain ⟨b, allocated, rfl⟩ := done
  exact ⟨allocated, rfl⟩

theorem length_of_createRecord {payer target : Key} {width : Nat}
    (done : runOn (createRecord payer target width) p = (.ok u, q)) :
    (q.book.account target).data.length = width := by
  rw [(Book.allocated_of_allocate (createRecord_spec done).1).data_after, List.length_replicate]

theorem openAssociated_spec {payer target wallet mint : Key}
    (done : runOn (openAssociated payer target wallet mint) p = (.ok u, q)) :
    p.book.allocate payer (Address.associated wallet mint) (Account.rent TokenAccount.width)
        (TokenAccount.encodeNew mint wallet) Known.tokenProgram = .ok q.book ∧
      q.events = p.events := by
  simp only [openAssociated, runOn_bind, runOn_invoke, runOn_book] at done
  split at done
  · obtain ⟨b, allocated, rfl⟩ := runOn_advance_eq_ok_iff.mp done
    exact ⟨allocated, rfl⟩
  · cases done

/-- Opening a token account gives nobody tokens. -/
theorem balance_of_openAssociated {payer target wallet mint : Key}
    (done : runOn (openAssociated payer target wallet mint) p = (.ok u, q)) (key : Key) :
    (q.book.account key).balance = (p.book.account key).balance := by
  obtain ⟨allocated, -⟩ := openAssociated_spec done
  have opened := Book.allocated_of_allocate allocated
  by_cases here : key = Address.associated wallet mint
  · rw [here]
    have held : (q.book.account (Address.associated wallet mint)).tokens? =
        some ⟨mint, wallet, 0⟩ := by
      rw [Account.tokens?_eq_some_iff, opened.owner_after, opened.data_after]
      exact ⟨rfl, TokenAccount.decode_encodeNew mint wallet⟩
    rw [Account.balance_of_tokens? held,
      Account.balance_of_tokens?_eq_none (Account.tokens?_eq_none_of_vacant opened.vacant)]
    rfl
  · exact ((Book.confined_of_allocate allocated).holding key fun mem =>
      here (List.mem_singleton.mp mem)).balance_eq

theorem ensureAssociated_spec {role : Role} {e : Entry} {payer wallet mint : Key}
    (done : runOn (ensureAssociated role e payer wallet mint) p = (.ok u, q)) :
    p.book.Ensured q.book e payer wallet mint ∧ q.events = p.events := by
  simp only [ensureAssociated, runOn_bind, runOn_book] at done
  split at done
  · rename_i unopened
    obtain ⟨_, r, opening, checking⟩ := runOn_bind_eq_ok_iff.mp done
    simp only [runOn_bind, runOn_book, runOn_pass_eq_ok_iff] at checking
    obtain ⟨checked, rfl⟩ := checking
    have associated := Check.associated_eq_ok_iff.mp checked
    obtain ⟨allocated, quiet⟩ := openAssociated_spec opening
    refine ⟨{
      associated := associated
      opened := .inr ⟨unopened, ?_⟩
      balance := balance_of_openAssociated opening
      evolves := Book.evolves_of_allocate allocated
      confined := ?_ }, quiet⟩
    · rw [associated.address]
      exact (Book.allocated_of_allocate allocated).vacant
    · rw [associated.address]
      exact Book.confined_of_allocate allocated
  · simp only [runOn_bind, runOn_book, runOn_pass_eq_ok_iff] at done
    obtain ⟨checked, rfl⟩ := done
    exact ⟨⟨Check.associated_eq_ok_iff.mp checked, .inl rfl, fun _ => rfl, .refl _, .refl _ _ _⟩,
      rfl⟩

/-- No call is made for no tokens, and the book has moved no tokens then. -/
theorem transfer_spec {source mint destination authority : Key} {amount : UInt64} {decimals : UInt8}
    {seeds : List (List Bytes)} {paying receiving : TokenAccount}
    (done : runOn (transfer source mint destination authority amount decimals seeds) p =
      (.ok u, q))
    (held : (p.book.account source).tokens? = some paying)
    (held' : (p.book.account destination).tokens? = some receiving) :
    p.book.Transferred q.book source destination amount.toNat ∧ p.book.Evolves q.book ∧
      p.book.Confined q.book [source, destination] [] ∧ q.events = p.events := by
  unfold transfer at done
  split at done
  · rename_i none
    cases done
    have still : p.book.Transferred p.book source destination amount.toNat := by
      intro key
      simp [none]
    exact ⟨still, .refl _, .refl _ _ _, rfl⟩
  · simp only [runOn_bind, runOn_invoke, runOn_book, runOn_advance_eq_ok_iff] at done
    obtain ⟨b, moved, rfl⟩ := done
    obtain ⟨transferred, evolves, confined⟩ := Book.transfer_spec held held' moved
    exact ⟨transferred, evolves, confined, rfl⟩

end Session

end RangeLottery
