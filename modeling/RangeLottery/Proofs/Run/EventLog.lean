import Mathlib.Logic.Function.Basic
import RangeLottery.Proofs.Record.Payout
import RangeLottery.Proofs.Run.Moment
import RangeLottery.Proofs.Step.Announcement

/-!
The events of a run as a log. Whoever reads nothing but the events knows the records: the events are
entered one after another into a registry, which is at every moment what the lottery program has recorded
in the book. A step that ends in a fault announces nothing and a step that succeeds announces one event,
whose amounts are those of its request, of the records and of the vault.
-/

namespace RangeLottery

/-! ### Registries -/

/-- What the lottery program can have recorded in an account. -/
inductive Recorded where
  | lottery (l : Lottery)
  | ticket (t : Ticket)
  deriving DecidableEq, Repr

/-- The record with the lottery changed, if it is one. -/
def Recorded.revise (change : Lottery → Lottery) : Recorded → Recorded
  | lottery l => lottery (change l)
  | ticket t => ticket t

/-- What the lottery program has recorded in the account. -/
def Account.recorded? (a : Account) : Option Recorded :=
  match a.lottery? with
  | some l => some (.lottery l)
  | none => a.ticket?.map .ticket

theorem Account.recorded?_of_lottery? {a : Account} {l : Lottery} (found : a.lottery? = some l) :
    a.recorded? = some (.lottery l) := by
  simp [recorded?, found]

theorem Account.recorded?_of_ticket? {a : Account} {t : Ticket} (found : a.ticket? = some t) :
    a.recorded? = some (.ticket t) := by
  simp [recorded?, lottery?_eq_none_of_ticket? found, found]

theorem Account.recorded?_cases {a : Account} (recorded : a.recorded?.isSome) :
    (∃ l, a.lottery? = some l) ∨ ∃ t, a.ticket? = some t := by
  unfold recorded? at recorded
  cases found : a.lottery? with
  | some l => exact .inl ⟨l, rfl⟩
  | none =>
    cases found' : a.ticket? with
    | some t => exact .inr ⟨t, rfl⟩
    | none => simp [found, found'] at recorded

theorem Account.owner_of_recorded? {a : Account} (recorded : a.recorded?.isSome) :
    a.owner = Known.lotteryProgram := by
  rcases recorded?_cases recorded with ⟨l, found⟩ | ⟨t, found⟩
  · exact (lottery?_eq_some_iff.mp found).1
  · exact (ticket?_eq_some_iff.mp found).1

/-- The records, each at its key. -/
abbrev Registry := Key → Option Recorded

namespace Registry

def empty : Registry :=
  fun _ => none

def enter (r : Registry) (key : Key) (record : Recorded) : Registry :=
  Function.update r key (some record)

def revise (r : Registry) (key : Key) (change : Lottery → Lottery) : Registry :=
  Function.update r key ((r key).map (Recorded.revise change))

/-- The registry after an event, of which only the event is known. -/
def note (r : Registry) : Event → Registry
  | .launched lottery authority capacity deadline mint =>
    r.enter lottery (.lottery {
      kind := .undrawn
      authority
      vault := Address.associated (Address.custody lottery).address mint
      feeAccount := Address.associated Known.feeCollector mint
      capacity
      deadline
      number := 0
      sold := 0
      mint })
  | .bought lottery ticket buyer start stop _ sold =>
    (r.enter ticket (.ticket ⟨lottery, buyer, start, stop⟩)).revise lottery fun l => { l with sold }
  | .drawn lottery number _ _ => r.revise lottery fun l => { l with kind := .drawn, number }
  | .settled lottery .. => r.revise lottery fun l => { l with kind := .settled }
  | .voided lottery _ => r.revise lottery fun l => { l with kind := .voided }

/-- The registry after the events of a log, entered in order. -/
def replay (log : List Event) : Registry :=
  log.foldl note empty

/-- The registry lists the accounts of the lottery program, each with its record. -/
structure Mirrors (r : Registry) (c : Book) : Prop where
  owned : ∀ key, (c.account key).owner = Known.lotteryProgram ↔ (r key).isSome
  recorded : ∀ key, r key = (c.account key).recorded?

variable {r : Registry} {b c : Book} {id : Key} {l l' : Lottery} {t : Ticket}

theorem revise_eq_enter (known : r id = some (.lottery l)) (change : Lottery → Lottery) :
    r.revise id change = r.enter id (.lottery (change l)) := by
  simp [revise, enter, known, Recorded.revise]

theorem Mirrors.lottery (mirrors : r.Mirrors b) (found : (b.account id).lottery? = some l) :
    r id = some (.lottery l) :=
  (mirrors.recorded id).trans (Account.recorded?_of_lottery? found)

/-- Entering the lottery that a step has written, where no ticket was. -/
theorem Mirrors.recorded_enter (mirrors : r.Mirrors b)
    (lotteries : ∀ key, (c.account key).lottery? =
      if key = id then some l' else (b.account key).lottery?)
    (tickets : ∀ key, (c.account key).ticket? = (b.account key).ticket?) (key : Key) :
    r.enter id (.lottery l') key = (c.account key).recorded? := by
  rw [enter, Function.update_apply]
  split
  · rename_i here
    exact (Account.recorded?_of_lottery? (by simp [lotteries, here])).symm
  · rename_i apart
    rw [mirrors.recorded, Account.recorded?, Account.recorded?, lotteries, if_neg apart, tickets]

/-- Revising a lottery as a step has done. -/
theorem Mirrors.recorded_revise (mirrors : r.Mirrors b) {change : Lottery → Lottery}
    (before : (b.account id).lottery? = some l) (changed : l' = change l)
    (lotteries : ∀ key, (c.account key).lottery? =
      if key = id then some l' else (b.account key).lottery?)
    (tickets : ∀ key, (c.account key).ticket? = (b.account key).ticket?) (key : Key) :
    r.revise id change key = (c.account key).recorded? := by
  rw [revise_eq_enter (mirrors.lottery before), ← changed]
  exact mirrors.recorded_enter lotteries tickets key

end Registry

/-! ### What a deed does to the records -/

/-- An account that came to the lottery program came with a record, where the other accounts that were
rewritten are token accounts. -/
theorem Book.Confined.owned_cases {b c : Book} {rewritten charged : List Key}
    (confined : b.Confined c rewritten charged)
    (known : ∀ key ∈ rewritten, (c.account key).recorded?.isSome ∨
      ∃ tokens, (c.account key).tokens? = some tokens)
    {key : Key} (owned : (c.account key).owner = Known.lotteryProgram) :
    (b.account key).owner = Known.lotteryProgram ∨ (c.account key).recorded?.isSome := by
  by_cases mem : key ∈ rewritten
  · rcases known key mem with recorded | ⟨tokens, held⟩
    · exact .inr recorded
    · rw [Account.tokens?_eq_none_of_owner owned] at held
      cases held
  · exact .inl ((confined.holding key mem).owner.symm.trans owned)

theorem Purchase.Effect.recorded_note {slot amount : UInt64} {entries : List Entry}
    {a : Purchase.Accounts} {l l' : Lottery} {t : Ticket} {b c : Book} {r : Registry}
    (effect : Purchase.Effect slot amount entries a l l' t b c)
    (mirrors : r.Mirrors b) (key : Key) :
    r.note (.bought a.lottery.key a.ticket.key a.buyer.key t.start t.stop t.size l'.sold) key =
      (c.account key).recorded? := by
  obtain ⟨-, -, -, -, -, ticket, sold⟩ := Lottery.issue_eq_ok_iff.mp effect.granted
  have apart : a.lottery.key ≠ a.ticket.key := by
    intro same
    exact Account.data_ne_nil_of_lottery? effect.before (same ▸ effect.checked.ticket_vacant)
  have start : t.start = l.sold := by rw [ticket]
  have known : r.enter a.ticket.key (.ticket ⟨a.lottery.key, a.buyer.key, t.start, t.stop⟩)
      a.lottery.key = some (.lottery l) := by
    rw [Registry.enter, Function.update_of_ne apart]
    exact mirrors.lottery effect.before
  have revised : { l with sold := l'.sold } = l' := by rw [sold]
  rw [Registry.note, Registry.revise_eq_enter known, revised, start, ← ticket, Registry.enter,
    Registry.enter, Function.update_apply, Function.update_apply]
  split
  · rename_i here
    exact (Account.recorded?_of_lottery? (by simp [effect.lotteries, here])).symm
  · rename_i other
    split
    · rename_i here
      exact (Account.recorded?_of_ticket? (by simp [effect.tickets, here])).symm
    · rename_i other'
      rw [mirrors.recorded, Account.recorded?, Account.recorded?, effect.lotteries, if_neg other,
        effect.tickets, if_neg other']

namespace Step.Deed

variable {s : Step} {b c : Book} {event : Event} {r : Registry}

theorem owned_cases (deed : s.Deed b c event) {key : Key}
    (owned : (c.account key).owner = Known.lotteryProgram) :
    (b.account key).owner = Known.lotteryProgram ∨ (c.account key).recorded?.isSome := by
  have written : ∀ {id : Key} {l : Lottery},
      (∀ key, (c.account key).lottery? = if key = id then some l else (b.account key).lottery?) →
      (c.account id).recorded?.isSome := by
    intro id l lotteries
    rw [Account.recorded?_of_lottery? (l := l) (by simp [lotteries])]
    rfl
  have lasting : ∀ {id : Key} {tokens : TokenAccount}, (b.account id).tokens? = some tokens →
      ∃ tokens, (c.account id).tokens? = some tokens := by
    intro id tokens held
    obtain ⟨_, held'⟩ := deed.evolves.tokens id tokens held
    exact ⟨_, held'⟩
  cases deed with
  | opening _ effect =>
    refine effect.confined.owned_cases ?_ owned
    simp only [List.forall_mem_cons, List.not_mem_nil, false_implies, implies_true, and_true]
    obtain ⟨_, vault⟩ := effect.vault_held
    obtain ⟨_, feeAccount⟩ := effect.feeAccount_held
    exact ⟨.inl (written effect.lotteries), .inr ⟨_, vault⟩, .inr ⟨_, feeAccount⟩⟩
  | purchase _ effect =>
    refine effect.confined.owned_cases ?_ owned
    simp only [List.forall_mem_cons, List.not_mem_nil, false_implies, implies_true, and_true]
    obtain ⟨_, vault⟩ := effect.loaded.vault_held
    refine ⟨.inl (written effect.lotteries), .inl ?_, .inr (lasting effect.loaded.purse_held),
      .inr (lasting vault)⟩
    rw [Account.recorded?_of_ticket? ((effect.tickets _).trans (if_pos rfl))]
    rfl
  | drawing _ effect =>
    refine effect.rewritten.confined.owned_cases ?_ owned
    simp only [List.forall_mem_cons, List.not_mem_nil, false_implies, implies_true, and_true]
    exact .inl (written effect.rewritten.lotteries)
  | settlement _ effect _ =>
    refine effect.confined.owned_cases ?_ owned
    simp only [List.forall_mem_cons, List.not_mem_nil, false_implies, implies_true, and_true]
    obtain ⟨_, prize⟩ := effect.prize_held
    exact ⟨.inl (written effect.lotteries), .inr (lasting effect.loaded.vault_held),
      .inr ⟨_, prize⟩, .inr (lasting effect.loaded.feeAccount_held)⟩
  | voiding _ effect =>
    refine effect.rewritten.confined.owned_cases ?_ owned
    simp only [List.forall_mem_cons, List.not_mem_nil, false_implies, implies_true, and_true]
    exact .inl (written effect.rewritten.lotteries)

/-- What was recorded stays recorded. -/
theorem recorded_lasts (deed : s.Deed b c event) {key : Key}
    (recorded : (b.account key).recorded?.isSome) : (c.account key).recorded?.isSome := by
  rcases Account.recorded?_cases recorded with ⟨l, found⟩ | ⟨t, found⟩
  · obtain ⟨l', found', -⟩ := deed.lasting.lottery key l found
    rw [Account.recorded?_of_lottery? found']
    rfl
  · rw [Account.recorded?_of_ticket? (deed.ticket found)]
    rfl

theorem recorded_note (deed : s.Deed b c event) (mirrors : r.Mirrors b) (key : Key) :
    r.note event key = (c.account key).recorded? := by
  cases deed with
  | opening _ effect =>
    obtain ⟨-, -, launched⟩ := Lottery.launch_eq_ok_iff.mp effect.granted
    rw [effect.vault_address, effect.feeAccount_address, effect.checked.custody,
      effect.checked.feeCollector] at launched
    rw [Registry.note, ← launched]
    exact mirrors.recorded_enter effect.lotteries effect.tickets key
  | purchase _ effect => exact effect.recorded_note mirrors key
  | drawing _ effect =>
    obtain ⟨-, -, -, drawn⟩ := Lottery.draw_eq_ok_iff.mp effect.granted
    exact mirrors.recorded_revise effect.rewritten.before drawn effect.rewritten.lotteries
      effect.rewritten.tickets key
  | settlement _ effect _ =>
    obtain ⟨-, -, -, -, settled⟩ := Lottery.settle_eq_ok_iff.mp effect.granted.settled
    exact mirrors.recorded_revise effect.granted.before settled effect.lotteries effect.tickets key
  | voiding _ effect =>
    obtain ⟨-, -, -, voided⟩ := Lottery.void_eq_ok_iff.mp effect.granted
    exact mirrors.recorded_revise effect.rewritten.before voided effect.rewritten.lotteries
      effect.rewritten.tickets key

/-- A registry that mirrors the book before a deed mirrors the book after it, with the event noted. -/
theorem mirrors_note (deed : s.Deed b c event) (mirrors : r.Mirrors b) :
    (r.note event).Mirrors c := by
  have recorded := deed.recorded_note mirrors
  refine ⟨fun key => ?_, recorded⟩
  rw [recorded]
  refine ⟨fun owned => ?_, Account.owner_of_recorded?⟩
  rcases deed.owned_cases owned with owned' | recorded'
  · apply deed.recorded_lasts
    rw [← mirrors.recorded]
    exact (mirrors.owned key).mp owned'
  · exact recorded'

end Step.Deed

/-! ### Runs -/

/-- Everything announced in a run, in order. -/
def Book.eventLog : Book → List Moment → List Event
  | _, [] => []
  | b, m :: rest => (m.outcome b).events ++ (m.outcome b).book.eventLog rest

theorem Book.eventLog_concat (b : Book) (moments : List Moment) (m : Moment) :
    b.eventLog (moments ++ [m]) = b.eventLog moments ++ (m.outcome (b.through moments)).events := by
  induction moments generalizing b with
  | nil => simp [eventLog]
  | cons first rest ih =>
    rw [List.cons_append, eventLog, ih, eventLog, List.append_assoc]
    rfl

/-- Writing the slot hashes gives no account to another program. -/
theorem Moment.owner_book (m : Moment) (b : Book) (key : Key) :
    ((m.book b).account key).owner = (b.account key).owner := by
  unfold Moment.book Book.refresh
  split
  · rfl
  · dsimp only
    split
    · rfl
    · rw [Book.account_modify]
      split
      · rename_i here
        rw [here]
      · rfl

theorem Registry.Mirrors.book {r : Registry} {b : Book} (mirrors : r.Mirrors b) (m : Moment) :
    r.Mirrors (m.book b) := by
  constructor
  · intro key
    rw [m.owner_book]
    exact mirrors.owned key
  · intro key
    rw [mirrors.recorded, Account.recorded?, Account.recorded?, m.lottery?_book, m.ticket?_book]

theorem Registry.mirrors_empty {b : Book} (unclaimed : b.Unclaimed) : empty.Mirrors b := by
  constructor
  · intro key
    simp [empty, unclaimed key]
  · intro key
    simp [empty, Account.recorded?, Account.lottery?, Account.ticket?, unclaimed key]

/-- A moment announces nothing and leaves the records, or it announces the event of its deed. -/
theorem Moment.mirrors {r : Registry} {b : Book} (mirrors : r.Mirrors b) (m : Moment) :
    ((m.outcome b).events.foldl Registry.note r).Mirrors (m.outcome b).book := by
  cases result : (m.outcome b).result with
  | error fault =>
    rw [show (m.outcome b).events = [] from Step.events_of_fault result,
      show (m.outcome b).book = m.book b from Step.book_run_of_fault result]
    exact mirrors.book m
  | ok u =>
    obtain ⟨event, events, deed⟩ := Step.deed_of_ok result
    rw [show (m.outcome b).events = [event] from events]
    exact deed.mirrors_note (mirrors.book m)

/-- The log of a run enters every record of the book at its end. -/
theorem Registry.mirrors_through {b : Book} (unclaimed : b.Unclaimed) (moments : List Moment) :
    (replay (b.eventLog moments)).Mirrors (b.through moments) := by
  induction moments using List.reverseRecOn with
  | nil => exact mirrors_empty unclaimed
  | append_singleton earlier m ih =>
    rw [Book.through_concat, Book.eventLog_concat, replay, List.foldl_append]
    exact m.mirrors ih

/-! ### What an event says -/

/-- The event tells what the step with `request` found in `b` and left in `c`. -/
def Event.Faithful (request : Request) (b c : Book) : Event → Prop
  | .launched _ _ capacity deadline _ => request = .launch capacity deadline
  | .bought _ _ _ start stop amount _ =>
    request = .buy amount ∧ start.toNat + amount.toNat = stop.toNat
  | .drawn lottery number slot sold =>
    request = .draw ∧ ∃ l l' sample,
      (b.account lottery).lottery? = some l ∧ (c.account lottery).lottery? = some l' ∧
        SlotHistory.checkpoint (b.account Known.slotHashes).data l.deadline = .ok sample ∧
        slot = sample.slot ∧ number = l'.number ∧ sold = l'.sold ∧ l'.sold = l.sold
  | .settled lottery ticket winner pool winnerAmount feeAmount =>
    request = .settle ∧ ∃ l t,
      (b.account lottery).lottery? = some l ∧ (b.account ticket).ticket? = some t ∧
        winner = t.buyer ∧ winnerAmount.toNat + feeAmount.toNat = pool.toNat ∧
        (b.account l.vault).balance = pool.toNat
  | .voided lottery deadline =>
    request = .void ∧ ∃ l, (b.account lottery).lottery? = some l ∧ deadline = l.deadline

theorem Step.Deed.faithful {s : Step} {b c : Book} {event : Event} (deed : s.Deed b c event) :
    ∃ request, Request.decode? s.call.data = some request ∧ event.Faithful request b c := by
  cases deed with
  | opening request _ => exact ⟨_, request, rfl⟩
  | purchase request effect =>
    obtain ⟨-, -, -, sum, -, ticket, -⟩ := Lottery.issue_eq_ok_iff.mp effect.granted
    have size := Lottery.size_of_issue effect.granted
    refine ⟨_, request, by rw [size], ?_⟩
    rw [size, ← sum, ticket]
  | drawing request effect =>
    refine ⟨_, request, rfl, _, _, _, effect.rewritten.before,
      (effect.rewritten.lotteries _).trans (if_pos rfl), effect.checkpoint, rfl, rfl, rfl, ?_⟩
    exact Lottery.sold_of_draw effect.granted
  | settlement request effect summed =>
    obtain ⟨-, -, -, divided, -⟩ := Lottery.settle_eq_ok_iff.mp effect.granted.settled
    have whole := (Payout.split_eq_ok_iff.mp divided).2
    have total := Payout.total_eq_ok_iff.mp summed
    have held := Account.balance_of_tokens? effect.loaded.vault_held
    rw [effect.granted.vault] at held
    exact ⟨_, request, rfl, _, _, effect.granted.before, effect.granted.ticket,
      effect.granted.winner, total, held.trans (whole.symm.trans total)⟩
  | voiding request effect =>
    obtain ⟨-, -, -, voided⟩ := Lottery.void_eq_ok_iff.mp effect.granted
    refine ⟨_, request, rfl, _, effect.rewritten.before, ?_⟩
    rw [voided]

/-- After every run the log mirrors the records, and whatever step follows announces nothing if it fails
and one faithful event if it succeeds. -/
theorem event_log_faithful {b : Book} (unclaimed : b.Unclaimed) (moments : List Moment) :
    (Registry.replay (b.eventLog moments)).Mirrors (b.through moments) ∧
      ∀ m : Moment,
        (∀ fault, (m.outcome (b.through moments)).result = .error fault →
          (m.outcome (b.through moments)).events = []) ∧
        ((m.outcome (b.through moments)).result = .ok () → ∃ event request,
          (m.outcome (b.through moments)).events = [event] ∧
            Request.decode? m.step.call.data = some request ∧
              event.Faithful request (m.book (b.through moments))
                (m.outcome (b.through moments)).book) := by
  refine ⟨Registry.mirrors_through unclaimed moments, fun m => ⟨fun fault failed => ?_, ?_⟩⟩
  · exact Step.events_of_fault failed
  · intro done
    obtain ⟨event, events, deed⟩ := Step.deed_of_ok done
    obtain ⟨request, decoded, faithful⟩ := deed.faithful
    exact ⟨event, request, events, decoded, faithful⟩

/-- After a purchase, the log has the ticket and the numbers sold, and a draw announces its number. -/
theorem event_log_faithful_after_purchase :
    Sample.book.Unclaimed ∧
      (Registry.replay (Sample.book.eventLog [Sample.opening, Sample.purchase])).Mirrors
        Sample.purchased ∧
      Registry.replay (Sample.book.eventLog [Sample.opening, Sample.purchase]) Sample.ticket =
        some (.ticket ⟨Sample.lottery, Sample.buyer, 0, 40⟩) ∧
      ∃ event request, (Sample.drawing.outcome Sample.purchased).events = [event] ∧
        Request.decode? Sample.drawing.step.call.data = some request ∧
          event.Faithful request (Sample.drawing.book Sample.purchased) Sample.drawn := by
  obtain ⟨mirrors, next⟩ :=
    event_log_faithful Sample.unclaimed [Sample.opening, Sample.purchase]
  rw [Sample.through_purchase] at mirrors next
  refine ⟨Sample.unclaimed, mirrors, ?_, ?_⟩
  · rw [mirrors.recorded]
    decide +kernel
  · rw [← Sample.drawing_done.2]
    exact (next Sample.drawing).2 Sample.drawing_done.1

end RangeLottery
