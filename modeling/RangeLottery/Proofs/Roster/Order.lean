import Mathlib.Data.List.Sort
import RangeLottery.Proofs.Record.Tiling
import RangeLottery.Roster

/-!
Rosters in order. In a sound roster the ranges are not empty and follow one another, so the two
neighbours of a number speak for all holdings: an entry that is clear of its neighbours is clear of all,
and the last holding that starts at or below a number is the only one that can hold it.
-/

namespace RangeLottery

/-- No number is in both ranges, of which neither is empty. -/
def Ticket.Apart (t t' : Ticket) : Prop :=
  t.stop ≤ t'.start ∨ t'.stop ≤ t.start

theorem Ticket.Apart.symm {t t' : Ticket} (apart : t.Apart t') : t'.Apart t :=
  Or.symm apart

/-- Of two ranges that are not empty, at most one comes before the other. -/
theorem Ticket.not_stop_le_start {t t' : Ticket} (nonempty : t.start < t.stop)
    (nonempty' : t'.start < t'.stop) (before : t.stop ≤ t'.start) : ¬ t'.stop ≤ t.start := by
  intro behind
  have reversed := UInt64.lt_of_lt_of_le (UInt64.lt_of_le_of_lt before nonempty') behind
  exact absurd nonempty (UInt64.lt_asymm reversed)

namespace Roster

/-- The holdings can stand on one roster of the lottery: each of them is a range of its numbers, and no
two overlap. -/
structure Compatible (lottery : Key) (holdings : List Holding) : Prop where
  own : ∀ h ∈ holdings, h.ticket.lottery = lottery
  nonempty : ∀ h ∈ holdings, h.ticket.start < h.ticket.stop
  apart : holdings.Pairwise fun h h' => h.ticket.Apart h'.ticket

/-- Compatible holdings in the order of their ranges. -/
structure Sound (r : Roster) : Prop where
  own : ∀ h ∈ r.holdings, h.ticket.lottery = r.lottery
  nonempty : ∀ h ∈ r.holdings, h.ticket.start < h.ticket.stop
  ordered : r.holdings.Pairwise fun h h' => h.ticket.stop ≤ h'.ticket.start

variable {r : Roster} {number start stop : UInt64} {h : Holding} {t : Ticket}
  {holdings : List Holding}

theorem sound_empty (lottery : Key) : (empty lottery).Sound :=
  ⟨nofun, nofun, .nil⟩

/-! ### Both sides of a number -/

/-- A condition on the start that holds of all ranges below one that it holds of takes the same from the
front as from the whole. -/
theorem takeWhile_eq_filter (below : UInt64 → Bool)
    (nonempty : ∀ h ∈ holdings, h.ticket.start < h.ticket.stop)
    (ordered : holdings.Pairwise fun h h' => h.ticket.stop ≤ h'.ticket.start)
    (down : ∀ start start', start ≤ start' → below start' = true → below start = true) :
    (holdings.takeWhile fun h => below h.ticket.start) =
        (holdings.filter fun h => below h.ticket.start) ∧
      (holdings.dropWhile fun h => below h.ticket.start) =
        (holdings.filter fun h => !below h.ticket.start) := by
  induction holdings with
  | nil => exact ⟨rfl, rfl⟩
  | cons first rest ih =>
    rw [List.pairwise_cons] at ordered
    obtain ⟨taken, dropped⟩ := ih (fun h mem => nonempty h (List.mem_cons_of_mem _ mem)) ordered.2
    cases holds : below first.ticket.start with
    | true => simp [holds, taken, dropped]
    | false =>
      -- Behind a range that is not below, none is.
      have above : ∀ h ∈ rest, below h.ticket.start = false := by
        intro h mem
        rw [← Bool.not_eq_true]
        intro holds'
        have before := UInt64.le_trans
          (UInt64.le_of_lt (nonempty first List.mem_cons_self)) (ordered.1 h mem)
        rw [down _ _ before holds'] at holds
        cases holds
      simp only [List.takeWhile_cons, List.dropWhile_cons, List.filter_cons, holds,
        Bool.not_false, Bool.false_eq_true, if_false, if_true]
      constructor
      · symm
        simpa using above
      · congr 1
        symm
        simpa using above

namespace Sound

theorem compatible (sound : r.Sound) : Compatible r.lottery r.holdings :=
  ⟨sound.own, sound.nonempty, sound.ordered.imp .inl⟩

theorem takeWhile_le (sound : r.Sound) (number : UInt64) :
    (r.holdings.takeWhile fun h => h.ticket.start ≤ number) =
      r.holdings.filter fun h => h.ticket.start ≤ number := by
  refine (takeWhile_eq_filter (decide <| · ≤ number) sound.nonempty sound.ordered ?_).1
  intro start start' before
  simpa using UInt64.le_trans before

theorem split_lt (sound : r.Sound) (number : UInt64) :
    (r.holdings.takeWhile fun h => h.ticket.start < number) =
        (r.holdings.filter fun h => h.ticket.start < number) ∧
      (r.holdings.dropWhile fun h => h.ticket.start < number) =
        (r.holdings.filter fun h => number ≤ h.ticket.start) := by
  have split := takeWhile_eq_filter (decide <| · < number) sound.nonempty sound.ordered
    fun start start' before => by simpa using UInt64.lt_of_le_of_lt before
  simpa only [← decide_not, UInt64.not_lt] using split

/-! ### The two neighbours -/

/-- The neighbour below is the last holding that starts at or below the number. -/
theorem of_below? (sound : r.Sound) (found : r.below? number = some h) :
    h ∈ r.holdings ∧ h.ticket.start ≤ number ∧
      ∀ g ∈ r.holdings, g.ticket.start ≤ number → g = h ∨ g.ticket.stop ≤ h.ticket.start := by
  rw [below?, sound.takeWhile_le] at found
  obtain ⟨before, split⟩ := List.getLast?_eq_some_iff.mp found
  have taken : ∀ g, g ∈ before ++ [h] ↔ g ∈ r.holdings ∧ g.ticket.start ≤ number := by
    intro g
    rw [← split, List.mem_filter, decide_eq_true_eq]
  have ordered := sound.ordered.filter fun h => h.ticket.start ≤ number
  rw [split, List.pairwise_append] at ordered
  obtain ⟨mem, low⟩ := (taken h).mp (by simp)
  refine ⟨mem, low, ?_⟩
  intro g mem' low'
  rcases List.mem_append.mp ((taken g).mpr ⟨mem', low'⟩) with earlier | last
  · exact .inr (ordered.2.2 g earlier h List.mem_cons_self)
  · exact .inl (List.mem_singleton.mp last)

theorem of_below?_eq_none (sound : r.Sound) (missing : r.below? number = none) :
    ∀ g ∈ r.holdings, number < g.ticket.start := by
  rw [below?, sound.takeWhile_le, List.getLast?_eq_none_iff, List.filter_eq_nil_iff] at missing
  intro g mem
  exact UInt64.not_le.mp fun low => missing g mem (by simpa using low)

/-- The neighbour above is the first holding that starts at or above the number. -/
theorem of_above? (sound : r.Sound) (found : r.above? number = some h) :
    h ∈ r.holdings ∧ number ≤ h.ticket.start ∧
      ∀ g ∈ r.holdings, number ≤ g.ticket.start → g = h ∨ h.ticket.stop ≤ g.ticket.start := by
  rw [above?, (sound.split_lt number).2] at found
  obtain ⟨behind, split⟩ := List.head?_eq_some_iff.mp found
  have kept : ∀ g, g ∈ h :: behind ↔ g ∈ r.holdings ∧ number ≤ g.ticket.start := by
    intro g
    rw [← split, List.mem_filter, decide_eq_true_eq]
  have ordered := sound.ordered.filter fun h => number ≤ h.ticket.start
  rw [split, List.pairwise_cons] at ordered
  obtain ⟨mem, high⟩ := (kept h).mp List.mem_cons_self
  refine ⟨mem, high, ?_⟩
  intro g mem' high'
  rcases List.mem_cons.mp ((kept g).mpr ⟨mem', high'⟩) with first | later
  · exact .inl first
  · exact .inr (ordered.1 g later)

theorem of_above?_eq_none (sound : r.Sound) (missing : r.above? number = none) :
    ∀ g ∈ r.holdings, g.ticket.start < number := by
  rw [above?, (sound.split_lt number).2, List.head?_eq_none_iff, List.filter_eq_nil_iff] at missing
  intro g mem
  exact UInt64.not_le.mp fun high => missing g mem (by simpa using high)

/-! ### Looking up -/

/-- The holding that is found for a number is the one that contains it. -/
theorem find?_eq_some_iff (sound : r.Sound) :
    r.find? number = some h ↔ h ∈ r.holdings ∧ h.ticket.contains number = true := by
  rw [find?, Option.filter_eq_some_iff]
  constructor
  · rintro ⟨found, holds⟩
    exact ⟨(sound.of_below? found).1, holds⟩
  · rintro ⟨mem, holds⟩
    refine ⟨?_, holds⟩
    obtain ⟨low, high⟩ := Ticket.contains_iff.mp holds
    cases found : r.below? number with
    | none => exact absurd low (UInt64.not_le.mpr (sound.of_below?_eq_none found h mem))
    | some g =>
      obtain ⟨-, low', last⟩ := sound.of_below? found
      rcases last h mem low with rfl | before
      · rfl
      · exact absurd (UInt64.le_trans before low') (UInt64.not_le.mpr high)

theorem winningHolding_eq {l : Lottery} (sound : r.Sound)
    (drawn : l.winningNumber? = some number) (mem : h ∈ r.holdings)
    (holds : h.ticket.contains number = true) : r.winningHolding l = .ok h := by
  simp [winningHolding, drawn, sound.find?_eq_some_iff.mpr ⟨mem, holds⟩]

end Sound

/-! ### Tiling -/

/-- Ranges that are not empty tile as the tickets do. -/
theorem tilesFrom_eq_true_iff (nonempty : ∀ h ∈ holdings, h.ticket.start < h.ticket.stop) :
    tilesFrom stop holdings start = true ↔
      Ticket.Tiles start (holdings.map Holding.ticket) stop := by
  induction holdings generalizing start with
  | nil => simp [tilesFrom, Ticket.Tiles]
  | cons first rest ih =>
    have here := nonempty first List.mem_cons_self
    simp only [tilesFrom, List.map_cons, Ticket.Tiles, Bool.and_eq_true, beq_iff_eq, here, true_and]
    rw [ih fun h mem => nonempty h (List.mem_cons_of_mem _ mem)]

theorem Sound.tiles_iff (sound : r.Sound) :
    r.tiles stop = true ↔ Ticket.Tiles 0 (r.holdings.map Holding.ticket) stop :=
  tilesFrom_eq_true_iff sound.nonempty

end Roster

end RangeLottery
