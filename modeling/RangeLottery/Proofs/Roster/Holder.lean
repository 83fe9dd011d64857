import RangeLottery.Proofs.Record.Lifecycle
import RangeLottery.Proofs.Record.Payout
import RangeLottery.Proofs.Roster.Insertion

/-!
The holder of the winning number. The tickets that a lottery sells tile the numbers sold, whatever else
is tried in between, so every number drawn has exactly one holder. A roster of the tickets finds that
holder from whatever order they are entered in, and a settlement pays that holder and no other.
-/

namespace RangeLottery

namespace Lottery

variable {l l' : Lottery} {id buyer : Key} {amount slot balance : UInt64} {t : Ticket}
  {operation : Operation} {operations : List Operation} {result : Except Refusal Answer}
  {attempts : List Attempt} {tickets : List Ticket}

/-! ### Tickets sold -/

/-- The operation sells tickets of the lottery at `id` or none. -/
def Operation.SellsFor (id : Key) : Operation → Prop
  | .issue lottery .. => lottery = id
  | .draw .. | .settle .. | .void .. => True

/-- The attempt asked for as many numbers of the lottery at `id` as the ticket has, for its buyer. -/
def Attempt.AskedFor (a : Attempt) (id : Key) (t : Ticket) : Prop :=
  t.lottery = id ∧ ∃ slot, a.operation = .issue id t.buyer t.size slot

/-- The numbers sold are those of the tickets, and every ticket was asked for. -/
structure Allotted (l : Lottery) (id : Key) (attempts : List Attempt) : Prop where
  tiles : Ticket.Tiles 0 (attempts.filterMap Attempt.ticket?) l.sold
  asked : ∀ a ∈ attempts, ∀ t, a.ticket? = some t → a.AskedFor id t

theorem allotted_of_launch {authority vault feeAccount mint : Key} {capacity deadline : UInt64}
    (launched : launch authority vault feeAccount mint capacity deadline slot = .ok l) (id : Key) :
    l.Allotted id [] := by
  obtain ⟨-, -, rfl⟩ := launch_eq_ok_iff.mp launched
  exact ⟨rfl, nofun⟩

/-- An attempt that sells nothing leaves the tickets alone. -/
theorem Allotted.concat_of_none (allotted : l.Allotted id attempts) (sold : l'.sold = l.sold)
    {a : Attempt} (nothing : a.ticket? = none) : l'.Allotted id (attempts ++ [a]) where
  tiles := by
    rw [List.filterMap_append, List.filterMap_cons_none nothing, List.filterMap_nil,
      List.append_nil, sold]
    exact allotted.tiles
  asked := by
    intro a' mem t ticket
    rcases List.mem_append.mp mem with before | last
    · exact allotted.asked a' before t ticket
    · rw [List.mem_singleton.mp last, nothing] at ticket
      cases ticket

theorem Allotted.concat_of_issue (allotted : l.Allotted id attempts)
    (granted : l.issue id buyer amount slot = (.ok t, l')) :
    l'.Allotted id (attempts ++ [⟨.issue id buyer amount slot, .ok (.issued t)⟩]) := by
  have nonempty := start_lt_stop_of_issue granted
  have size := size_of_issue granted
  obtain ⟨-, -, -, -, -, ticket, rfl⟩ := issue_eq_ok_iff.mp granted
  have start : t.start = l.sold := by rw [ticket]
  constructor
  · rw [List.filterMap_append]
    have tiles := allotted.tiles
    rw [← start] at tiles
    exact tiles.concat nonempty
  · intro a mem t' sold
    rcases List.mem_append.mp mem with before | last
    · exact allotted.asked a before t' sold
    · rw [List.mem_singleton.mp last] at sold ⊢
      cases sold
      refine ⟨by rw [ticket], slot, ?_⟩
      rw [size, show t.buyer = buyer by rw [ticket]]

theorem Tried.allotted (tried : l.Tried operation result l') (sells : operation.SellsFor id)
    (allotted : l.Allotted id attempts) : l'.Allotted id (attempts ++ [⟨operation, result⟩]) := by
  cases tried with
  | refused => exact allotted.concat_of_none rfl rfl
  | issued granted =>
    cases sells
    exact allotted.concat_of_issue granted
  | drawn granted => exact allotted.concat_of_none (sold_of_draw granted) rfl
  | settled granted => exact allotted.concat_of_none (sold_of_settle granted) rfl
  | voided granted => exact allotted.concat_of_none (sold_of_void granted) rfl

theorem Allotted.after (allotted : l.Allotted id []) (operations : List Operation)
    (sells : ∀ operation ∈ operations, operation.SellsFor id) :
    (l.after operations).Allotted id (l.attempts operations) := by
  apply course_induction (motive := fun attempts l' => l'.Allotted id attempts) allotted
  intro attempts l' operation result l'' mem tried allotted
  exact tried.allotted (sells operation mem) allotted

/-! ### The winner -/

/-- The winner is the only one of the tickets that holds the winning number, and the only one that a
settlement of the drawn lottery pays. -/
structure WonBy (l : Lottery) (id : Key) (tickets : List Ticket) (winner : Ticket) : Prop where
  number : l.winningNumber? = some l.number
  alone : tickets.filter (·.contains l.number) = [winner]
  paid : l.kind = .drawn → ∀ balance,
    ∃ payout, l.settle id winner balance = (.ok payout, { l with kind := .settled })
  others : l.kind = .drawn → ∀ t ∈ tickets, t ≠ winner → ∀ balance,
    l.settle id t balance = (.error .notWinningTicket, l)

theorem settle_of_not_contains (drawn : l.kind = .drawn) (own : t.lottery = id)
    (misses : t.contains l.number = false) :
    l.settle id t balance = (.error .notWinningTicket, l) := by
  simp [settle, drawn, own, misses]

/-- A number of a tiling has a winner among its tickets. -/
theorem exists_wonBy (number : l.winningNumber? = some l.number)
    (own : ∀ t ∈ tickets, t.lottery = id) (tiles : Ticket.Tiles 0 tickets l.sold)
    (sold : l.number < l.sold) : ∃ winner, l.WonBy id tickets winner := by
  obtain ⟨winner, alone⟩ := tiles.filter_contains UInt64.zero_le sold
  obtain ⟨mem, holds⟩ := Ticket.mem_of_alone alone
  refine ⟨winner, number, alone, ?_, ?_⟩
  · intro drawn balance
    have within : Payout.feeRate ≤ Payout.wholeRate := by decide
    obtain ⟨payout, divided⟩ := Payout.exists_split balance within
    exact ⟨payout, settle_eq_ok_iff.mpr ⟨drawn, own winner mem, holds, divided, rfl⟩⟩
  · intro drawn t mem' other balance
    apply settle_of_not_contains drawn (own t mem')
    rw [← Bool.not_eq_true]
    intro holds'
    exact other (Ticket.eq_of_alone alone mem' holds')

end Lottery

/-! ### Rosters of the tickets -/

namespace Roster

variable {lottery : Key} {tickets : List Ticket} {stop : UInt64} {holdings : List Holding}
  {l : Lottery} {winner : Ticket}

/-- The tickets of a tiling make a roster that lists them in their order, whatever accounts they live at
and however they are entered. -/
theorem ofHoldings_of_tiles (own : ∀ t ∈ tickets, t.lottery = lottery)
    (tiles : Ticket.Tiles 0 tickets stop) (listed : (holdings.map Holding.ticket).Perm tickets) :
    ∃ r, ofHoldings lottery holdings = .ok r ∧ r.Sound ∧ r.holdings.Perm holdings ∧
      r.holdings.map Holding.ticket = tickets := by
  have mem : ∀ h ∈ holdings, h.ticket ∈ tickets := by
    intro h mem
    exact listed.mem_iff.mp (List.mem_map_of_mem mem)
  have apart : (holdings.map Holding.ticket).Pairwise Ticket.Apart :=
    (listed.pairwise_iff Ticket.Apart.symm).mpr (tiles.ordered.imp .inl)
  obtain ⟨r, entered, sound, -, perm⟩ := ofHoldings_of_compatible {
    own := fun h mem' => own h.ticket (mem h mem')
    nonempty := fun h mem' => (tiles.bounds (mem h mem')).2.1
    apart := List.pairwise_map.mp apart }
  refine ⟨r, entered, sound, perm, ?_⟩
  -- Both list the same ranges in their order.
  have listed' : (r.holdings.map Holding.ticket).Perm tickets := (perm.map _).trans listed
  apply List.Perm.eq_of_pairwise ?_ (List.pairwise_map.mpr sound.ordered) tiles.ordered listed'
  intro t t' mem mem' before behind
  have nonempty := (tiles.bounds (listed'.mem_iff.mp mem)).2.1
  have nonempty' := (tiles.bounds mem').2.1
  exact absurd behind (Ticket.not_stop_le_start nonempty nonempty' before)

theorem tiles_iff_of_tiles {r : Roster} (sound : r.Sound)
    (tiles : Ticket.Tiles 0 (r.holdings.map Holding.ticket) stop) (number : UInt64) :
    r.tiles number = true ↔ number = stop := by
  rw [sound.tiles_iff]
  constructor
  · intro tiles'
    exact tiles'.stop_unique tiles
  · rintro rfl
    exact tiles

/-- The roster finds the holding of the winner. -/
theorem winningHolding_of_wonBy {r : Roster} (sound : r.Sound)
    (won : l.WonBy lottery (r.holdings.map Holding.ticket) winner) :
    ∃ h ∈ r.holdings, h.ticket = winner ∧ r.winningHolding l = .ok h := by
  obtain ⟨listed, holds⟩ := Ticket.mem_of_alone won.alone
  obtain ⟨h, mem, rfl⟩ := List.mem_map.mp listed
  exact ⟨h, mem, rfl, sound.winningHolding_eq won.number mem holds⟩

end Roster

namespace Lottery

variable {l : Lottery} {id : Key} {operations : List Operation} {slot : UInt64}

/-- The tickets sold by `operations` and the holder of the winning number among them, by whatever path
it is looked for. -/
structure OneHolder (l : Lottery) (id : Key) (operations : List Operation) : Prop where
  allotted : (l.after operations).Allotted id (l.attempts operations)
  capacity : (l.after operations).sold ≤ l.capacity
  roster : ∀ holdings, (holdings.map Holding.ticket).Perm (l.tickets operations) →
    ∃ r, Roster.ofHoldings id holdings = .ok r ∧
      ∀ number, r.tiles number = true ↔ number = (l.after operations).sold
  winner : (l.after operations).kind = .drawn ∨ (l.after operations).kind = .settled →
    ∃ winner, (l.after operations).WonBy id (l.tickets operations) winner ∧
      ∀ holdings r, (holdings.map Holding.ticket).Perm (l.tickets operations) →
        Roster.ofHoldings id holdings = .ok r →
          ∃ h ∈ holdings, h.ticket = winner ∧ r.winningHolding (l.after operations) = .ok h

/-- Every ticket that was asked for is a ticket of the lottery. -/
theorem Allotted.own {attempts : List Attempt} (allotted : l.Allotted id attempts) :
    ∀ t ∈ attempts.filterMap Attempt.ticket?, t.lottery = id := by
  intro t mem
  obtain ⟨a, mem, sold⟩ := List.mem_filterMap.mp mem
  exact (allotted.asked a mem t sold).1

/-- Whatever is tried on a lottery from its launch on, its tickets tile the numbers sold, and the winning
number has exactly one holder, whom every roster finds and who alone is paid. -/
theorem exactly_one_holder {authority vault feeAccount mint : Key} {capacity deadline : UInt64}
    (launched : launch authority vault feeAccount mint capacity deadline slot = .ok l)
    (sells : ∀ operation ∈ operations, operation.SellsFor id) : l.OneHolder id operations := by
  have allotted := (allotted_of_launch launched id).after operations sells
  have coherent := ((recounts_of_launch launched).after operations).coherent
  constructor
  case allotted => exact allotted
  case capacity =>
    rw [← (advances_after l operations).terms.capacity_eq]
    exact coherent.storable.2
  case roster =>
    intro holdings listed
    obtain ⟨r, entered, sound, -, inOrder⟩ :=
      Roster.ofHoldings_of_tiles allotted.own allotted.tiles listed
    refine ⟨r, entered, Roster.tiles_iff_of_tiles sound ?_⟩
    rw [inOrder]
    exact allotted.tiles
  case winner =>
    intro kind
    have number := winningNumber?_eq_some_iff.mpr ⟨kind, rfl⟩
    obtain ⟨winner, won⟩ :=
      exists_wonBy number allotted.own allotted.tiles (coherent.drawn kind)
    refine ⟨winner, won, ?_⟩
    intro holdings r listed entered
    obtain ⟨r', entered', sound, perm, inOrder⟩ :=
      Roster.ofHoldings_of_tiles allotted.own allotted.tiles listed
    rw [entered] at entered'
    cases entered'
    rw [← inOrder] at won
    obtain ⟨h, mem, ticket, found⟩ := Roster.winningHolding_of_wonBy sound won
    exact ⟨h, perm.mem_iff.mp mem, ticket, found⟩

/-- The authority has bought the last twenty numbers of the sample lottery, of which the last is drawn. -/
theorem exactly_one_holder_of_sample :
    launch Sample.authority Sample.vault Sample.feeAccount Sample.mint 100 50 20 =
        .ok Sample.launched ∧
      (∀ operation ∈ Sample.course, operation.SellsFor Sample.lottery) ∧
      Sample.launched.OneHolder Sample.lottery Sample.course ∧
      (Sample.launched.after Sample.course).WonBy Sample.lottery
        [⟨Sample.lottery, Sample.buyer, 0, 40⟩, ⟨Sample.lottery, Sample.authority, 40, 60⟩]
        ⟨Sample.lottery, Sample.authority, 40, 60⟩ := by
  have sells : ∀ operation ∈ Sample.course, operation.SellsFor Sample.lottery := by
    simp [Sample.course, Operation.SellsFor]
  have oneHolder := exactly_one_holder Sample.launch_eq sells
  have sold : Sample.launched.tickets Sample.course =
      [⟨Sample.lottery, Sample.buyer, 0, 40⟩, ⟨Sample.lottery, Sample.authority, 40, 60⟩] := by
    decide +kernel
  obtain ⟨winner, won, -⟩ := oneHolder.winner (.inl (congrArg Lottery.kind Sample.after_course))
  rw [sold] at won
  have alone := won.alone
  rw [Sample.after_course] at alone
  cases alone
  exact ⟨Sample.launch_eq, sells, oneHolder, won⟩

end Lottery

end RangeLottery
