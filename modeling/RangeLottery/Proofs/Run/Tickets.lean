import Mathlib.Data.List.Forall2
import RangeLottery.Proofs.Record.Tiling
import RangeLottery.Proofs.Run.Moment

/-!
The tickets of a run. Whatever steps are taken, by whomever and on however many lotteries, the ticket
accounts of a lottery are those of its granted purchases, and their ranges follow one another in the
order of the purchases from zero to the numbers sold. A ticket never changes once it is there.
-/

namespace RangeLottery

/-! ### Sales -/

/-- A granted purchase, as its call lists it. -/
structure Sale where
  lottery : Key
  ticket : Entry
  buyer : Entry
  amount : UInt64
  deriving DecidableEq, Repr

/-- The holder is the ticket account of the sale, and its ticket has the amount of the sale for the
buyer. Both signed. -/
structure Sale.Allots (sale : Sale) (holder : Key × Ticket) : Prop where
  account : holder.1 = sale.ticket.key
  account_signs : sale.ticket.signer = true
  lottery : holder.2.lottery = sale.lottery
  buyer : holder.2.buyer = sale.buyer.key
  buyer_signs : sale.buyer.signer = true
  amount : holder.2.start.toNat + sale.amount.toNat = holder.2.stop.toNat

/-- The sale that the moment makes, if it is a granted purchase. -/
def Moment.sale? (m : Moment) (b : Book) : Option Sale :=
  match (m.outcome b).result, Request.decode? m.step.call.data with
  | .ok (), some (.buy amount) => do
    let lottery ← m.step.call.accounts[0]?
    let ticket ← m.step.call.accounts[1]?
    let buyer ← m.step.call.accounts[2]?
    return { lottery := lottery.key, ticket, buyer, amount }
  | _, _ => none

/-- The sales of a run, in order. -/
def Book.sales : Book → List Moment → List Sale
  | _, [] => []
  | b, m :: rest => (m.sale? b).toList ++ (m.outcome b).book.sales rest

theorem Book.sales_concat (b : Book) (moments : List Moment) (m : Moment) :
    b.sales (moments ++ [m]) = b.sales moments ++ (m.sale? (b.through moments)).toList := by
  induction moments generalizing b with
  | nil => simp [sales]
  | cons first rest ih =>
    rw [List.cons_append, sales, ih, sales, List.append_assoc]
    rfl

/-- How many numbers the lottery at `key` has sold, which are none where no lottery is recorded. -/
def Book.soldAt (b : Book) (key : Key) : UInt64 :=
  ((b.account key).lottery?.map Lottery.sold).getD 0

theorem Book.soldAt_of_lottery? {b : Book} {key : Key} {l : Lottery}
    (recorded : (b.account key).lottery? = some l) : b.soldAt key = l.sold := by
  simp [soldAt, recorded]

/-! ### What a moment does to tickets -/

/-- The book has the tickets of `b` and its lotteries have sold as many numbers. -/
structure Book.SameTickets (b c : Book) : Prop where
  tickets : ∀ key, (c.account key).ticket? = (b.account key).ticket?
  sold : ∀ key, c.soldAt key = b.soldAt key

/-- The record written at `id` has sold as many numbers as the one before. -/
theorem Book.soldAt_eq_of_written {b c : Book} {id : Key} {l' : Lottery}
    (lotteries : ∀ key, (c.account key).lottery? =
      if key = id then some l' else (b.account key).lottery?)
    (same : l'.sold = b.soldAt id) (key : Key) : c.soldAt key = b.soldAt key := by
  by_cases here : key = id
  · rw [here, soldAt_of_lottery? (l := l') (by simp [lotteries]), same]
  · simp [soldAt, lotteries, here]

/-- Every deed but a purchase leaves the tickets and the numbers sold. -/
theorem Step.Deed.tickets_cases {s : Step} {b c : Book} {event : Event} (deed : s.Deed b c event) :
    ((∀ amount, Request.decode? s.call.data ≠ some (.buy amount)) ∧ b.SameTickets c) ∨
      ∃ amount a l l' t, Request.decode? s.call.data = some (.buy amount) ∧
        Purchase.Effect s.slot amount s.call.accounts a l l' t b c := by
  cases deed with
  | opening request effect =>
    refine .inl ⟨by simp [request], effect.tickets,
      Book.soldAt_eq_of_written effect.lotteries ?_⟩
    obtain ⟨-, -, rfl⟩ := Lottery.launch_eq_ok_iff.mp effect.granted
    simp [Book.soldAt, Account.lottery?_eq_none_of_vacant effect.checked.lottery_vacant]
  | purchase request effect => exact .inr ⟨_, _, _, _, _, request, effect⟩
  | drawing request effect =>
    refine .inl ⟨by simp [request], effect.rewritten.tickets,
      Book.soldAt_eq_of_written effect.rewritten.lotteries ?_⟩
    rw [Book.soldAt_of_lottery? effect.rewritten.before]
    exact Lottery.sold_of_draw effect.granted
  | settlement request effect _ =>
    refine .inl ⟨by simp [request], effect.tickets,
      Book.soldAt_eq_of_written effect.lotteries ?_⟩
    rw [Book.soldAt_of_lottery? effect.granted.before]
    exact Lottery.sold_of_settle effect.granted.settled
  | voiding request effect =>
    refine .inl ⟨by simp [request], effect.rewritten.tickets,
      Book.soldAt_eq_of_written effect.rewritten.lotteries ?_⟩
    rw [Book.soldAt_of_lottery? effect.rewritten.before]
    exact Lottery.sold_of_void effect.granted

/-- A moment makes no sale and leaves the tickets, or it is a granted purchase and makes its sale. -/
theorem Moment.sale?_cases (m : Moment) (b : Book) :
    (m.sale? b = none ∧ b.SameTickets (m.outcome b).book) ∨
      ∃ amount a l l' t, m.sale? b = some ⟨a.lottery.key, a.ticket, a.buyer, amount⟩ ∧
        Purchase.Effect m.step.slot amount m.step.call.accounts a l l' t (m.book b)
          (m.outcome b).book := by
  have found : b.SameTickets (m.book b) :=
    ⟨m.ticket?_book b, fun key => by simp [Book.soldAt]⟩
  cases result : (m.outcome b).result with
  | error fault =>
    refine .inl ⟨by simp [sale?, result], ?_⟩
    rw [show (m.outcome b).book = m.book b from Step.book_run_of_fault result]
    exact found
  | ok u =>
    obtain ⟨event, -, deed⟩ := Step.deed_of_ok result
    rcases deed.tickets_cases with ⟨other, same⟩ | ⟨amount, a, l, l', t, request, effect⟩
    · refine .inl ⟨?_, fun key => (same.tickets key).trans (found.tickets key),
        fun key => (same.sold key).trans (found.sold key)⟩
      unfold sale?
      split
      · rename_i amount _ request
        exact absurd request (other amount)
      · rfl
    · refine .inr ⟨amount, a, l, l', t, ?_, effect⟩
      simp [sale?, result, request, effect.loaded.lottery, effect.loaded.ticket,
        effect.loaded.buyer]

/-! ### The partition -/

/-- The holders are the ticket accounts of the lottery at `key`, one for each of `sales` and in their
order, and the ranges of their tickets follow one another from zero to `sold`. -/
structure Book.Partition (c : Book) (sales : List Sale) (key : Key) (sold : UInt64)
    (holders : List (Key × Ticket)) : Prop where
  listed : ∀ id t, (id, t) ∈ holders ↔ (c.account id).ticket? = some t ∧ t.lottery = key
  distinct : (holders.map Prod.fst).Nodup
  tiles : Ticket.Tiles 0 (holders.map Prod.snd) sold
  allotted : List.Forall₂ Sale.Allots sales holders

namespace Book.Partition

variable {b c : Book} {sales : List Sale} {key : Key} {sold : UInt64}
  {holders : List (Key × Ticket)}

/-- Nothing is sold of anything where the lottery program owns nothing. -/
theorem of_unclaimed (unclaimed : b.Unclaimed) (key : Key) :
    b.Partition [] key (b.soldAt key) [] := by
  have unrecorded : ∀ id, (b.account id).lottery? = none ∧ (b.account id).ticket? = none := by
    intro id
    simp [Account.lottery?, Account.ticket?, unclaimed id]
  constructor
  · intro id t
    simp [unrecorded]
  · exact List.nodup_nil
  · simp [soldAt, unrecorded, Ticket.Tiles]
  · exact .nil

theorem congr (partition : b.Partition sales key sold holders)
    (tickets : ∀ id t, t.lottery = key →
      ((c.account id).ticket? = some t ↔ (b.account id).ticket? = some t)) :
    c.Partition sales key sold holders := by
  refine { partition with listed := fun id t => (partition.listed id t).trans ?_ }
  constructor
  · rintro ⟨recorded, own⟩
    exact ⟨(tickets id t own).mpr recorded, own⟩
  · rintro ⟨recorded, own⟩
    exact ⟨(tickets id t own).mp recorded, own⟩

/-- A purchase adds its ticket behind the others. -/
theorem concat {sale : Sale} {id : Key} {t : Ticket}
    (partition : b.Partition sales key t.start holders) (own : t.lottery = key)
    (nonempty : t.start < t.stop) (fresh : (b.account id).ticket? = none)
    (tickets : ∀ other, (c.account other).ticket? =
      if other = id then some t else (b.account other).ticket?)
    (allots : sale.Allots (id, t)) :
    c.Partition (sales ++ [sale]) key t.stop (holders ++ [(id, t)]) := by
  have absent : id ∉ holders.map Prod.fst := by
    intro mem
    obtain ⟨⟨_, t'⟩, listed, rfl⟩ := List.mem_map.mp mem
    have recorded := ((partition.listed _ t').mp listed).1
    rw [recorded] at fresh
    cases fresh
  constructor
  · intro other t'
    rw [List.mem_append, List.mem_singleton, Prod.mk.injEq, partition.listed, tickets]
    split
    · rename_i here
      subst here
      simp only [fresh, reduceCtorEq, false_and, true_and, false_or, Option.some.injEq]
      constructor
      · rintro rfl
        exact ⟨rfl, own⟩
      · rintro ⟨rfl, -⟩
        rfl
    · rename_i apart
      simp [apart]
  · rw [List.map_append, List.nodup_append]
    refine ⟨partition.distinct, by simp, ?_⟩
    intro other mem appended mem' same
    rw [List.map_singleton, List.mem_singleton] at mem'
    rw [same, mem'] at mem
    exact absent mem
  · rw [List.map_append]
    exact partition.tiles.concat nonempty
  · exact List.rel_append partition.allotted (.cons allots .nil)

end Book.Partition

section Purchase

variable {m : Moment} {b : Book} {amount : UInt64} {a : Purchase.Accounts} {l l' : Lottery}
  {t : Ticket}

/-- The sale of a granted purchase allots its ticket. -/
theorem Purchase.Effect.allots {slot : UInt64} {entries : List Entry} {b c : Book}
    (effect : Purchase.Effect slot amount entries a l l' t b c) :
    Sale.Allots ⟨a.lottery.key, a.ticket, a.buyer, amount⟩ (a.ticket.key, t) := by
  obtain ⟨-, -, -, sum, -, ticket, -⟩ := Lottery.issue_eq_ok_iff.mp effect.granted
  rw [ticket]
  exact ⟨rfl, effect.loaded.ticket_signs, rfl, rfl, effect.loaded.buyer_signs, sum⟩

/-- A purchase of the lottery itself. -/
theorem Moment.partition_own {sales : List Sale} {holders : List (Key × Ticket)}
    (effect : Purchase.Effect m.step.slot amount m.step.call.accounts a l l' t (m.book b)
      (m.outcome b).book)
    (partition : b.Partition sales a.lottery.key (b.soldAt a.lottery.key) holders) :
    (m.outcome b).book.Partition (sales ++ [⟨a.lottery.key, a.ticket, a.buyer, amount⟩])
      a.lottery.key ((m.outcome b).book.soldAt a.lottery.key)
      (holders ++ [(a.ticket.key, t)]) := by
  obtain ⟨-, -, -, -, -, ticket, after⟩ := Lottery.issue_eq_ok_iff.mp effect.granted
  have start : t.start = l.sold := by rw [ticket]
  have own : t.lottery = a.lottery.key := by rw [ticket]
  have sold : b.soldAt a.lottery.key = t.start := by
    rw [Book.soldAt_of_lottery? ((m.lottery?_book b _).symm.trans effect.before), start]
  have sold' : (m.outcome b).book.soldAt a.lottery.key = t.stop := by
    rw [Book.soldAt_of_lottery? (l := l') (by simp [effect.lotteries]), after]
  rw [sold']
  rw [sold] at partition
  refine partition.concat own (Lottery.start_lt_stop_of_issue effect.granted) ?_ ?_ effect.allots
  · rw [← m.ticket?_book b]
    exact Account.ticket?_eq_none_of_vacant effect.checked.ticket_vacant
  · intro other
    rw [effect.tickets, m.ticket?_book]

/-- A purchase of another lottery. -/
theorem Moment.partition_other {sales : List Sale} {holders : List (Key × Ticket)} {key : Key}
    (effect : Purchase.Effect m.step.slot amount m.step.call.accounts a l l' t (m.book b)
      (m.outcome b).book)
    (other : key ≠ a.lottery.key) (partition : b.Partition sales key (b.soldAt key) holders) :
    (m.outcome b).book.Partition sales key ((m.outcome b).book.soldAt key) holders := by
  have sold : (m.outcome b).book.soldAt key = b.soldAt key := by
    simp [Book.soldAt, effect.lotteries, other]
  rw [sold]
  apply partition.congr
  intro id t' own
  rw [effect.tickets, m.ticket?_book]
  split
  · rename_i here
    have vacant : (b.account a.ticket.key).ticket? = none := by
      rw [← m.ticket?_book b]
      exact Account.ticket?_eq_none_of_vacant effect.checked.ticket_vacant
    have own' : t.lottery = a.lottery.key := effect.allots.lottery
    rw [here, vacant]
    constructor
    · rintro same
      cases same
      exact absurd (own.symm.trans own') other
    · rintro same
      cases same
  · rfl

end Purchase

theorem Moment.partition {b : Book} {sales : List Sale} {key : Key} (m : Moment)
    (partitioned : ∃ holders,
      b.Partition (sales.filter (·.lottery = key)) key (b.soldAt key) holders) :
    ∃ holders, (m.outcome b).book.Partition
      ((sales ++ (m.sale? b).toList).filter (·.lottery = key)) key
      ((m.outcome b).book.soldAt key) holders := by
  obtain ⟨holders, partition⟩ := partitioned
  rcases m.sale?_cases b with ⟨unsold, same⟩ | ⟨amount, a, l, l', t, sale, effect⟩
  · rw [unsold, same.sold, Option.toList_none, List.append_nil]
    exact ⟨holders, partition.congr fun id _ _ => by rw [same.tickets]⟩
  · rw [sale, Option.toList_some, List.filter_append]
    by_cases own : key = a.lottery.key
    · rw [own] at partition ⊢
      refine ⟨holders ++ [(a.ticket.key, t)], ?_⟩
      simpa using Moment.partition_own effect partition
    · refine ⟨holders, ?_⟩
      simpa [Ne.symm own] using Moment.partition_other effect own partition

/-- At every key the tickets of the lottery there partition the numbers sold. -/
theorem Book.partition_through {b : Book} (unclaimed : b.Unclaimed) (moments : List Moment)
    (key : Key) :
    ∃ holders, (b.through moments).Partition ((b.sales moments).filter (·.lottery = key)) key
      ((b.through moments).soldAt key) holders := by
  induction moments using List.reverseRecOn with
  | nil => exact ⟨[], .of_unclaimed unclaimed key⟩
  | append_singleton earlier m ih =>
    rw [through_concat, sales_concat]
    exact m.partition ih

/-- After every run, the tickets of a lottery partition the numbers it has sold, in the order of the
purchases and for their buyers, and a ticket account stays as it is in all that follows. -/
theorem tickets_partition_and_last {b : Book} (unclaimed : b.Unclaimed) (moments : List Moment) :
    (∀ key l, ((b.through moments).account key).lottery? = some l → l.sold ≤ l.capacity ∧
      ∃ holders, (b.through moments).Partition ((b.sales moments).filter (·.lottery = key)) key
        l.sold holders) ∧
    (∀ id t, ((b.through moments).account id).ticket? = some t → ∀ later,
      ((b.through (moments ++ later)).account id).owner = ((b.through moments).account id).owner ∧
        ((b.through (moments ++ later)).account id).data =
          ((b.through moments).account id).data) := by
  constructor
  · intro key l recorded
    have partitioned := Book.partition_through unclaimed moments key
    rw [Book.soldAt_of_lottery? recorded] at partitioned
    exact ⟨(Account.lottery?_eq_some_iff.mp recorded).2.1.2, partitioned⟩
  · intro id t recorded later
    have recorded' := (Book.lasting_through (b.through moments) later).ticket id t recorded
    rw [← Book.through_append] at recorded'
    obtain ⟨owner, -, data⟩ := Account.ticket?_eq_some_iff.mp recorded
    obtain ⟨owner', -, data'⟩ := Account.ticket?_eq_some_iff.mp recorded'
    exact ⟨owner'.trans owner.symm, data'.trans data.symm⟩

/-- A run with one purchase has one ticket, which later moments leave. -/
theorem tickets_partition_after_purchase :
    Sample.book.Unclaimed ∧
      (∃ holders, Sample.purchased.Partition
        ((Sample.book.sales [Sample.opening, Sample.purchase]).filter (·.lottery = Sample.lottery))
        Sample.lottery 40 holders) ∧
      ∀ later, ((Sample.purchased.through later).account Sample.ticket).data =
        Ticket.encode ⟨Sample.lottery, Sample.buyer, 0, 40⟩ := by
  have run := tickets_partition_and_last Sample.unclaimed [Sample.opening, Sample.purchase]
  simp only [Book.through_append, Sample.through_purchase] at run
  refine ⟨Sample.unclaimed, ?_, ?_⟩
  · exact (run.1 Sample.lottery { Sample.launched with sold := 40 } (by decide +kernel)).2
  · intro later
    rw [(run.2 Sample.ticket ⟨Sample.lottery, Sample.buyer, 0, 40⟩ (by decide +kernel) later).2]
    decide +kernel

end RangeLottery
