import RangeLottery.Proofs.Step.Drawing
import RangeLottery.Proofs.Step.Opening
import RangeLottery.Proofs.Step.Purchase
import RangeLottery.Proofs.Step.Settlement
import RangeLottery.Proofs.Step.Voiding
import RangeLottery.Step.Run

/-!
What a successful step did. A step succeeds only as one of the five requests, with its effect on the
book and the one event that it announces; every other step leaves the book alone. What follows for the
readings of a book is derived from the five effects here, so that statements about runs do not look
into the steps: how the record at a key moves (`Lottery.Moves`) and what lasts (`Book.Lasting`).
-/

namespace RangeLottery

/-- The step succeeded on `b`, left `c` and announced `event`. -/
inductive Step.Deed (s : Step) (b c : Book) : Event → Prop
  | opening {capacity deadline : UInt64} {a : Opening.Accounts} {l : Lottery}
      (request : Request.decode? s.call.data = some (.launch capacity deadline))
      (effect : Opening.Effect s.slot capacity deadline s.call.accounts a l b c) :
      Deed s b c (.launched a.lottery.key a.authority.key capacity deadline a.mint.key)
  | purchase {amount : UInt64} {a : Purchase.Accounts} {l l' : Lottery} {t : Ticket}
      (request : Request.decode? s.call.data = some (.buy amount))
      (effect : Purchase.Effect s.slot amount s.call.accounts a l l' t b c) :
      Deed s b c (.bought a.lottery.key a.ticket.key a.buyer.key t.start t.stop t.size l'.sold)
  | drawing {a : Drawing.Accounts} {l l' : Lottery} {sample : SlotHash}
      (request : Request.decode? s.call.data = some .draw)
      (effect : Drawing.Effect s.slot s.call.accounts a l l' sample b c) :
      Deed s b c (.drawn a.lottery.key l'.number sample.slot l'.sold)
  | settlement {a : Settlement.Accounts} {l l' : Lottery} {t : Ticket} {payout : Payout}
      {total : UInt64} (request : Request.decode? s.call.data = some .settle)
      (effect : Settlement.Effect s.call.accounts a l l' t payout b c)
      (summed : payout.total = .ok total) :
      Deed s b c
        (.settled a.lottery.key a.ticket.key a.winner.key total payout.winner payout.fee)
  | voiding {a : Voiding.Accounts} {l l' : Lottery}
      (request : Request.decode? s.call.data = some .void)
      (effect : Voiding.Effect s.slot s.call.accounts a l l' b c) :
      Deed s b c (.voided a.lottery.key l'.deadline)

namespace Step

open Session

variable {s : Step} {b c : Book} {u : Unit} {event : Event}

theorem session_eq_ok_iff {p q : Progress} :
    runOn s.session p = (.ok u, q) ↔
      s.call.program = Known.lotteryProgram ∧
        ∃ request, Request.decode? s.call.data = some request ∧
          runOn (serve s.slot s.call.accounts request)
            { p with remarks := p.remarks ++ [.received request] } = (.ok u, q) := by
  unfold session
  split
  · rename_i foreign
    simp [foreign]
  · rename_i addressed
    simp only [accept_bind_eq_ok_iff, remark_bind_eq_ok_iff, Request.decode,
      Classical.not_not.mp addressed, true_and]
    cases Request.decode? s.call.data <;> simp

theorem run_eq_ok_iff :
    (s.run b).result = .ok u ↔
      ∃ q, runOn s.session (Progress.start b) = (.ok u, q) ∧ (s.run b).book = q.book ∧
        (s.run b).events = q.events := by
  unfold run
  cases ran : runOn s.session (Progress.start b) with
  | mk result q =>
    cases result with
    | ok _ => simp
    | error fault => simp

/-- A step that succeeds did one of the five deeds and announced it. -/
theorem deed_of_ok (done : (s.run b).result = .ok u) :
    ∃ event, (s.run b).events = [event] ∧ s.Deed b (s.run b).book event := by
  obtain ⟨q, ran, book_eq, events_eq⟩ := run_eq_ok_iff.mp done
  obtain ⟨-, request, decoded, served⟩ := session_eq_ok_iff.mp ran
  rw [book_eq, events_eq]
  cases request with
  | launch capacity deadline =>
    obtain ⟨a, l, effect, events⟩ := Opening.run_spec served
    exact ⟨_, events, .opening decoded effect⟩
  | buy amount =>
    obtain ⟨a, l, l', t, effect, events⟩ := Purchase.run_spec served
    exact ⟨_, events, .purchase decoded effect⟩
  | draw =>
    obtain ⟨a, l, l', sample, effect, events⟩ := Drawing.run_spec served
    exact ⟨_, events, .drawing decoded effect⟩
  | settle =>
    obtain ⟨a, l, l', t, payout, effect, total, summed, events⟩ := Settlement.run_spec served
    exact ⟨_, events, .settlement decoded effect summed⟩
  | void =>
    obtain ⟨a, l, l', effect, events⟩ := Voiding.run_spec served
    exact ⟨_, events, .voiding decoded effect⟩

/-- A step either left the book alone or did one of the five deeds. -/
theorem book_run_cases (s : Step) (b : Book) :
    (s.run b).book = b ∨ ((s.run b).result = .ok () ∧ ∃ event, s.Deed b (s.run b).book event) := by
  cases result : (s.run b).result with
  | error fault => exact .inl (book_run_of_fault result)
  | ok u =>
    obtain ⟨event, -, deed⟩ := deed_of_ok result
    exact .inr ⟨rfl, event, deed⟩

/-- Every deed evolves the book. -/
theorem Deed.evolves (deed : s.Deed b c event) : b.Evolves c := by
  cases deed with
  | opening _ effect => exact effect.evolves
  | purchase _ effect => exact effect.evolves
  | drawing _ effect => exact effect.rewritten.evolves
  | settlement _ effect _ => exact effect.evolves
  | voiding _ effect => exact effect.rewritten.evolves

end Step

/-! ### How a record moves -/

/-- What a step at `slot` on `b` can do to the record of the lottery at `id`. -/
inductive Lottery.Moves (b : Book) (slot : UInt64) (id : Key) :
    Option Lottery → Option Lottery → Prop
  | kept (before : Option Lottery) : Moves b slot id before before
  | launched {authority vault feeAccount mint : Key} {capacity deadline : UInt64} {l : Lottery}
      (granted : Lottery.launch authority vault feeAccount mint capacity deadline slot = .ok l) :
      Moves b slot id none (some l)
  | issued {buyer : Key} {amount : UInt64} {l l' : Lottery} {t : Ticket}
      (granted : l.issue id buyer amount slot = (.ok t, l')) : Moves b slot id (some l) (some l')
  | drawn {l l' : Lottery} {sample : SlotHash}
      (checkpoint : SlotHistory.checkpoint (b.account Known.slotHashes).data l.deadline = .ok sample)
      (granted : l.draw id sample slot = (.ok l'.number, l')) : Moves b slot id (some l) (some l')
  | settled {l l' : Lottery} {t : Ticket} {pool : UInt64} {payout : Payout}
      (granted : l.settle id t pool = (.ok payout, l')) : Moves b slot id (some l) (some l')
  | voided {l l' : Lottery} (granted : l.void slot = (.ok (), l')) :
      Moves b slot id (some l) (some l')

theorem Step.Deed.moves {s : Step} {b c : Book} {event : Event} (deed : s.Deed b c event)
    (key : Key) : Lottery.Moves b s.slot key (b.account key).lottery? (c.account key).lottery? := by
  -- The deed writes one lottery; at every other key the record is kept.
  have elsewhere : ∀ {id : Key} {l : Lottery},
      (c.account key).lottery? = (if key = id then some l else (b.account key).lottery?) →
      (key = id → Lottery.Moves b s.slot key (b.account key).lottery? (some l)) →
      Lottery.Moves b s.slot key (b.account key).lottery? (c.account key).lottery? := by
    intro id l written here
    rw [written]
    split
    · rename_i same
      exact here same
    · exact .kept _
  cases deed with
  | opening _ effect =>
    apply elsewhere (effect.lotteries key)
    rintro rfl
    rw [Account.lottery?_eq_none_of_vacant effect.checked.lottery_vacant]
    exact .launched effect.granted
  | purchase _ effect =>
    apply elsewhere (effect.lotteries key)
    rintro rfl
    rw [effect.before]
    exact .issued effect.granted
  | drawing _ effect =>
    apply elsewhere (effect.rewritten.lotteries key)
    rintro rfl
    rw [effect.rewritten.before]
    exact .drawn effect.checkpoint effect.granted
  | settlement _ effect _ =>
    apply elsewhere (effect.lotteries key)
    rintro rfl
    rw [effect.granted.before]
    exact .settled effect.granted.settled
  | voiding _ effect =>
    apply elsewhere (effect.rewritten.lotteries key)
    rintro rfl
    rw [effect.rewritten.before]
    exact .voided effect.granted

/-- A record that moved is still there. -/
theorem Lottery.Moves.isSome {b : Book} {slot : UInt64} {id : Key} {before after : Option Lottery}
    (moves : Lottery.Moves b slot id before after) (recorded : before.isSome) : after.isSome := by
  cases moves with
  | kept => exact recorded
  | _ => rfl

/-! ### What lasts -/

theorem Lottery.Moves.sameTerms {b : Book} {slot : UInt64} {id : Key} {l l' : Lottery}
    (moves : Lottery.Moves b slot id (some l) (some l')) : l.SameTerms l' := by
  cases moves with
  | kept => exact .refl _
  | issued granted => exact Lottery.sameTerms_of_issue granted
  | drawn _ granted => exact Lottery.sameTerms_of_draw granted
  | settled granted => exact Lottery.sameTerms_of_settle granted
  | voided granted => exact Lottery.sameTerms_of_void granted

/-- Only a purchase changes the numbers sold. -/
theorem Lottery.Moves.sold_eq {b : Book} {slot : UInt64} {id : Key} {l l' : Lottery}
    (moves : Lottery.Moves b slot id (some l) (some l')) :
    l'.sold = l.sold ∨ ∃ buyer amount t, l.issue id buyer amount slot = (.ok t, l') := by
  cases moves with
  | kept => exact .inl rfl
  | issued granted => exact .inr ⟨_, _, _, granted⟩
  | drawn _ granted => exact .inl (Lottery.sold_of_draw granted)
  | settled granted => exact .inl (Lottery.sold_of_settle granted)
  | voided granted => exact .inl (Lottery.sold_of_void granted)

/-- What a later book keeps of an earlier one: a lottery keeps its terms, a ticket everything, and a
token account its mint and its owner. -/
structure Book.Lasting (b c : Book) : Prop where
  lottery : ∀ key l, (b.account key).lottery? = some l →
    ∃ l', (c.account key).lottery? = some l' ∧ l.SameTerms l'
  ticket : ∀ key t, (b.account key).ticket? = some t → (c.account key).ticket? = some t
  tokens : b.KeepsWallets c

namespace Book.Lasting

protected theorem refl (b : Book) : b.Lasting b :=
  ⟨fun _ l recorded => ⟨l, recorded, rfl⟩, fun _ _ recorded => recorded,
    fun _ tokens held => ⟨tokens.amount, held⟩⟩

protected theorem trans {b c d : Book} (first : b.Lasting c) (second : c.Lasting d) :
    b.Lasting d where
  lottery key l recorded := by
    obtain ⟨l', recorded', same⟩ := first.lottery key l recorded
    obtain ⟨l'', recorded'', same'⟩ := second.lottery key l' recorded'
    exact ⟨l'', recorded'', same.trans same'⟩
  ticket key t recorded := second.ticket key t (first.ticket key t recorded)
  tokens := first.tokens.trans second.tokens

end Book.Lasting

namespace Step.Deed

variable {s : Step} {b c : Book} {event : Event}

/-- A ticket that a deed finds is not changed: only an account without data becomes a ticket. -/
theorem ticket (deed : s.Deed b c event) {key : Key} {t : Ticket}
    (recorded : (b.account key).ticket? = some t) : (c.account key).ticket? = some t := by
  cases deed with
  | opening _ effect => rw [effect.tickets, recorded]
  | purchase _ effect =>
    rw [effect.tickets]
    split
    · rename_i here
      rw [here, Account.ticket?_eq_none_of_vacant effect.checked.ticket_vacant] at recorded
      cases recorded
    · exact recorded
  | drawing _ effect => rw [effect.rewritten.tickets, recorded]
  | settlement _ effect _ => rw [effect.tickets, recorded]
  | voiding _ effect => rw [effect.rewritten.tickets, recorded]

theorem lasting (deed : s.Deed b c event) : b.Lasting c where
  lottery key l recorded := by
    have moves := deed.moves key
    rw [recorded] at moves
    obtain ⟨l', recorded'⟩ := Option.isSome_iff_exists.mp (moves.isSome rfl)
    rw [recorded'] at moves
    exact ⟨l', recorded', moves.sameTerms⟩
  ticket _ _ recorded := deed.ticket recorded
  tokens := deed.evolves.tokens

/-- A lottery was recorded before or was just opened. -/
theorem lottery_cases (deed : s.Deed b c event) {key : Key} {l : Lottery}
    (recorded : (c.account key).lottery? = some l) :
    (∃ l₀, (b.account key).lottery? = some l₀) ∨
      ∃ capacity deadline a, a.lottery.key = key ∧
        Opening.Effect s.slot capacity deadline s.call.accounts a l b c := by
  -- The other deeds write a record where there was one.
  have rewritten : ∀ {id : Key} {l₀ l' : Lottery}, (b.account id).lottery? = some l₀ →
      (c.account key).lottery? = (if key = id then some l' else (b.account key).lottery?) →
      ∃ l₀, (b.account key).lottery? = some l₀ := by
    intro id l₀ l' before written
    by_cases here : key = id
    · exact ⟨l₀, here ▸ before⟩
    · rw [written, if_neg here] at recorded
      exact ⟨l, recorded⟩
  cases deed with
  | opening request effect =>
    have written := effect.lotteries key
    rw [recorded] at written
    split at written
    · rename_i here
      cases written
      exact .inr ⟨_, _, _, here.symm, effect⟩
    · exact .inl ⟨l, written.symm⟩
  | purchase _ effect => exact .inl (rewritten effect.before (effect.lotteries key))
  | drawing _ effect =>
    exact .inl (rewritten effect.rewritten.before (effect.rewritten.lotteries key))
  | settlement _ effect _ => exact .inl (rewritten effect.granted.before (effect.lotteries key))
  | voiding _ effect =>
    exact .inl (rewritten effect.rewritten.before (effect.rewritten.lotteries key))

/-- A ticket was recorded before or was just bought. -/
theorem ticket_cases (deed : s.Deed b c event) {id : Key} {t : Ticket}
    (recorded : (c.account id).ticket? = some t) :
    (b.account id).ticket? = some t ∨
      ∃ amount a l l', a.ticket.key = id ∧
        Purchase.Effect s.slot amount s.call.accounts a l l' t b c := by
  cases deed with
  | opening _ effect => exact .inl ((effect.tickets id).symm.trans recorded)
  | purchase _ effect =>
    have written := effect.tickets id
    rw [recorded] at written
    split at written
    · rename_i here
      cases written
      exact .inr ⟨_, _, _, _, here.symm, effect⟩
    · exact .inl written.symm
  | drawing _ effect => exact .inl ((effect.rewritten.tickets id).symm.trans recorded)
  | settlement _ effect _ => exact .inl ((effect.tickets id).symm.trans recorded)
  | voiding _ effect => exact .inl ((effect.rewritten.tickets id).symm.trans recorded)

end Step.Deed

end RangeLottery
