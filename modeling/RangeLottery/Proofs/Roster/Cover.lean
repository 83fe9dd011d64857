import Mathlib.Algebra.GroupWithZero.Nat
import RangeLottery.Proofs.Record.Lottery
import RangeLottery.Proofs.Roster.Ranges

/-!
Rosters that cover the numbers sold. The check goes through the holdings once and compares each start with
the stop before it. Main statement: on a roster this decides whether its ranges together are exactly the
numbers from zero to the number asked about, whatever is missing otherwise (all of it, a piece in front, a
piece between two ranges, or the end). What is covered is then the sum of the sizes, and the roster has a
winner for exactly the numbers below it.
-/

namespace RangeLottery

namespace Ticket

variable {start stop number : UInt64} {t : Ticket} {tickets : List Ticket}

/-- The numbers of the tickets are those from `start` up to but not including `stop`. -/
def Fill (start : UInt64) (tickets : List Ticket) (stop : UInt64) : Prop :=
  ∀ number, (∃ t ∈ tickets, t.contains number = true) ↔ start ≤ number ∧ number < stop

theorem Tiles.fill (tiles : Tiles start tickets stop) : Fill start tickets stop := by
  intro number
  constructor
  · rintro ⟨t, mem, holds⟩
    obtain ⟨after, -, before⟩ := tiles.bounds mem
    obtain ⟨low, high⟩ := contains_iff.mp holds
    exact ⟨UInt64.le_trans after low, UInt64.lt_of_lt_of_le high before⟩
  · rintro ⟨low, high⟩
    obtain ⟨t, alone⟩ := tiles.filter_contains low high
    exact ⟨t, mem_of_alone alone⟩

/-- The first of some tickets in order starts where their numbers start, and the others fill the rest. -/
theorem Fill.of_cons (fill : Fill start (t :: tickets) stop) (nonempty : t.start < t.stop)
    (ordered : ∀ t' ∈ tickets, t.stop ≤ t'.start) :
    t.start = start ∧ t.stop ≤ stop ∧ Fill t.stop tickets stop := by
  have holders {number : UInt64} (low : start ≤ number) (high : number < stop) :
      t.contains number = true ∨ ∃ t' ∈ tickets, t'.contains number = true := by
    obtain ⟨t', mem, holds⟩ := (fill number).mpr ⟨low, high⟩
    rcases List.mem_cons.mp mem with rfl | mem
    · exact .inl holds
    · exact .inr ⟨t', mem, holds⟩
  have beyond {number : UInt64} {t' : Ticket} (mem : t' ∈ tickets)
      (holds : t'.contains number = true) : t.stop ≤ number :=
    UInt64.le_trans (ordered t' mem) (contains_iff.mp holds).1
  obtain ⟨low, high⟩ := (fill t.start).mp ⟨t, List.mem_cons_self, contains_start nonempty⟩
  have start_eq : t.start = start := by
    refine UInt64.le_antisymm ?_ low
    rcases holders (UInt64.le_refl start) (UInt64.lt_of_le_of_lt low high) with here | ⟨t', mem, holds⟩
    · exact (contains_iff.mp here).1
    · exact absurd (UInt64.le_trans (beyond mem holds) low) (UInt64.not_le.mpr nonempty)
  refine ⟨start_eq, ?_, ?_⟩
  · -- Otherwise the ticket would hold the number `stop`.
    refine UInt64.not_lt.mp fun more => ?_
    have holds := contains_iff.mpr ⟨UInt64.le_of_lt high, more⟩
    exact UInt64.lt_irrefl stop ((fill stop).mp ⟨t, List.mem_cons_self, holds⟩).2
  · intro number
    constructor
    · rintro ⟨t', mem, holds⟩
      have below := ((fill number).mp ⟨t', List.mem_cons_of_mem _ mem, holds⟩).2
      exact ⟨beyond mem holds, below⟩
    · rintro ⟨after, below⟩
      have low' := UInt64.le_trans low (UInt64.le_trans (UInt64.le_of_lt nonempty) after)
      rcases holders low' below with here | other
      · exact absurd (contains_iff.mp here).2 (UInt64.not_lt.mpr after)
      · exact other

/-- Tickets in order tile the numbers that they fill. -/
theorem Fill.tiles (fill : Fill start tickets stop) (nonempty : ∀ t ∈ tickets, t.start < t.stop)
    (ordered : tickets.Pairwise fun t t' => t.stop ≤ t'.start) (onward : start ≤ stop) :
    Tiles start tickets stop := by
  induction tickets generalizing start with
  | nil =>
    refine UInt64.le_antisymm onward (UInt64.not_lt.mp fun room => ?_)
    obtain ⟨t, mem, -⟩ := (fill start).mpr ⟨UInt64.le_refl start, room⟩
    cases mem
  | cons first rest ih =>
    have here := nonempty first List.mem_cons_self
    obtain ⟨start_eq, onward', fill'⟩ := fill.of_cons here (List.pairwise_cons.mp ordered).1
    exact ⟨start_eq, here, ih fill' (fun t mem => nonempty t (List.mem_cons_of_mem _ mem))
      (List.pairwise_cons.mp ordered).2 onward'⟩

/-! ### Sizes -/

theorem toNat_size (nonempty : t.start < t.stop) :
    t.start.toNat + t.size.toNat = t.stop.toNat := by
  rw [toNat_size_eq_sub]
  exact Nat.add_sub_cancel' (UInt64.le_iff_toNat_le.mp (UInt64.le_of_lt nonempty))

theorem Tiles.sum_sizes (tiles : Tiles start tickets stop) :
    start.toNat + (tickets.map fun t => t.size.toNat).sum = stop.toNat := by
  induction tickets generalizing start with
  | nil => exact congrArg UInt64.toNat tiles
  | cons first rest ih =>
    obtain ⟨rfl, nonempty, tiles⟩ := tiles
    rw [List.map_cons, List.sum_cons, ← Nat.add_assoc, toNat_size nonempty]
    exact ih tiles

end Ticket

namespace Roster

variable {r : Roster} {sold number : UInt64} {l : Lottery}

/-! ### The check -/

/-- A roster covers the numbers sold when they are the numbers of its holdings. -/
theorem Sound.tiles_iff_union (sound : r.Sound) :
    r.tiles sold = true ↔
      ∀ number, (∃ h ∈ r.holdings, h.ticket.contains number = true) ↔ number < sold := by
  have fill_iff : Ticket.Fill 0 (r.holdings.map Holding.ticket) sold ↔
      ∀ number, (∃ h ∈ r.holdings, h.ticket.contains number = true) ↔ number < sold := by
    simp [Ticket.Fill]
  rw [sound.tiles_iff, ← fill_iff]
  constructor
  · exact Ticket.Tiles.fill
  · intro fill
    refine fill.tiles ?_ (List.pairwise_map.mpr sound.ordered) UInt64.zero_le
    intro t mem
    obtain ⟨h, listed, rfl⟩ := List.mem_map.mp mem
    exact sound.nonempty h listed

theorem Sound.find?_isSome_iff (sound : r.Sound) :
    (r.find? number).isSome ↔ ∃ h ∈ r.holdings, h.ticket.contains number = true := by
  simp only [Option.isSome_iff_exists, sound.find?_eq_some_iff]

/-- A roster covers the numbers sold when it finds a holding for those and for no other. -/
theorem Sound.tiles_iff_found (sound : r.Sound) :
    r.tiles sold = true ↔ ∀ number, (number < sold → (r.find? number).isSome) ∧
      (sold ≤ number → r.find? number = none) := by
  simp only [sound.tiles_iff_union, ← sound.find?_isSome_iff, ← Option.not_isSome_iff_eq_none,
    ← UInt64.not_lt]
  refine forall_congr' fun number => ?_
  tauto

/-! ### The winner -/

theorem Sound.winningHolding_of_lt (sound : r.Sound) (covers : r.tiles sold = true)
    (drawn : l.kind = .drawn ∨ l.kind = .settled) (below : l.number < sold) :
    ∃ h ∈ r.holdings, h.ticket.contains l.number = true ∧ r.winningHolding l = .ok h := by
  obtain ⟨h, mem, holds⟩ := (sound.tiles_iff_union.mp covers l.number).mpr below
  have number := Lottery.winningNumber?_eq_some_iff.mpr ⟨drawn, rfl⟩
  exact ⟨h, mem, holds, sound.winningHolding_eq number mem holds⟩

theorem Sound.winningHolding_of_le (sound : r.Sound) (covers : r.tiles sold = true)
    (drawn : l.kind = .drawn ∨ l.kind = .settled) (above : sold ≤ l.number) :
    r.winningHolding l = .error .noWinningTicketFound := by
  have missing := (sound.tiles_iff_found.mp covers l.number).2 above
  simp [winningHolding, Lottery.winningNumber?_eq_some_iff.mpr ⟨drawn, rfl⟩, missing]

/-- The check for `sold` decides whether the roster is a partition of the numbers below `sold`. -/
structure DecidesPartition (r : Roster) (sold : UInt64) : Prop where
  union : r.tiles sold = true ↔
    ∀ number, (∃ h ∈ r.holdings, h.ticket.contains number = true) ↔ number < sold
  found : r.tiles sold = true ↔ ∀ number, (number < sold → (r.find? number).isSome) ∧
    (sold ≤ number → r.find? number = none)
  unique : ∀ sold', r.tiles sold = true → r.tiles sold' = true → sold' = sold
  sizes : r.tiles sold = true → (r.holdings.map fun h => h.ticket.size.toNat).sum = sold.toNat
  winner : r.tiles sold = true → ∀ l, l.kind = .drawn ∨ l.kind = .settled → l.number < sold →
    ∃ h ∈ r.holdings, h.ticket.contains l.number = true ∧ r.winningHolding l = .ok h
  noWinner : r.tiles sold = true → ∀ l, l.kind = .drawn ∨ l.kind = .settled → sold ≤ l.number →
    r.winningHolding l = .error .noWinningTicketFound

theorem Sound.decidesPartition (sound : r.Sound) (sold : UInt64) : r.DecidesPartition sold where
  union := sound.tiles_iff_union
  found := sound.tiles_iff_found
  unique _ covers covers' := (sound.tiles_iff.mp covers').stop_unique (sound.tiles_iff.mp covers)
  sizes covers := by
    have sum := (sound.tiles_iff.mp covers).sum_sizes
    rw [List.map_map] at sum
    exact (Nat.zero_add _).symm.trans sum
  winner covers _ drawn below := sound.winningHolding_of_lt covers drawn below
  noWinner covers _ drawn above := sound.winningHolding_of_le covers drawn above

/-- Whatever entries were tried on the empty roster of a lottery, the check that its ranges cover the
numbers sold decides whether they are a partition of these numbers. -/
theorem partition_decided (lottery : Key) (entries : List Holding) (sold : UInt64) :
    ((empty lottery).after entries).DecidesPartition sold :=
  ((sound_empty lottery).after entries).1.decidesPartition sold

/-- Nothing but no numbers is covered without a holding, and a gap is found in front and in between. -/
example (account buyer : Key) :
    let lottery := Key.ofNat 1
    let front : Holding := ⟨account, ⟨lottery, buyer, 0, 10⟩⟩
    let back : Holding := ⟨account, ⟨lottery, buyer, 20, 30⟩⟩
    (empty lottery).tiles 0 = true ∧ ((empty lottery).after [back]).tiles 30 = false ∧
      ((empty lottery).after [back, front]).tiles 30 = false ∧
      ((empty lottery).after [front]).tiles 10 = true := by
  exact ⟨rfl, rfl, rfl, rfl⟩

end Roster

end RangeLottery
