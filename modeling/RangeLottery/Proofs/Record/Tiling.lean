import RangeLottery.Record.Ticket

/-!
Tickets that follow one another. The tickets of a lottery take the numbers sold without a gap and
without an overlap, so every number sold has one holder.
-/

namespace RangeLottery

/-- The tickets follow one another from `start` to `stop`, and none of them is empty. -/
def Ticket.Tiles : UInt64 → List Ticket → UInt64 → Prop
  | start, [], stop => start = stop
  | start, t :: rest, stop => t.start = start ∧ t.start < t.stop ∧ Tiles t.stop rest stop

namespace Ticket

variable {start stop number : UInt64} {t t' : Ticket} {tickets : List Ticket}

theorem contains_iff : t.contains number = true ↔ t.start ≤ number ∧ number < t.stop := by
  simp [contains]

theorem toNat_size_eq_sub (t : Ticket) : t.size.toNat = t.stop.toNat - t.start.toNat := by
  unfold size Amount.sub?
  split
  · rename_i ordered
    exact UInt64.toNat_sub_of_le _ _ ordered
  · rename_i reversed
    have reversed := UInt64.lt_iff_toNat_lt.mp (UInt64.not_le.mp reversed)
    exact (Nat.sub_eq_zero_of_le (Nat.le_of_lt reversed)).symm

/-- The only ticket that holds a number is one of the tickets. -/
theorem mem_of_alone (alone : tickets.filter (·.contains number) = [t]) :
    t ∈ tickets ∧ t.contains number = true := by
  have kept : t ∈ tickets.filter (·.contains number) := by
    rw [alone]
    exact List.mem_cons_self
  exact List.mem_filter.mp kept

theorem eq_of_alone (alone : tickets.filter (·.contains number) = [t]) (mem : t' ∈ tickets)
    (held : t'.contains number = true) : t' = t := by
  have kept : t' ∈ tickets.filter (·.contains number) := List.mem_filter.mpr ⟨mem, held⟩
  rw [alone] at kept
  exact List.mem_singleton.mp kept

namespace Tiles

theorem start_le_stop (tiles : Tiles start tickets stop) : start ≤ stop := by
  induction tickets generalizing start with
  | nil => exact UInt64.le_of_eq tiles
  | cons t rest ih =>
    obtain ⟨rfl, nonempty, tiles⟩ := tiles
    exact UInt64.le_trans (UInt64.le_of_lt nonempty) (ih tiles)

/-- The next ticket starts where the last one stopped. -/
theorem concat (tiles : Tiles start tickets t.start) (nonempty : t.start < t.stop) :
    Tiles start (tickets ++ [t]) t.stop := by
  induction tickets generalizing start with
  | nil => exact ⟨tiles.symm, nonempty, rfl⟩
  | cons first rest ih =>
    obtain ⟨rfl, nonempty', tiles⟩ := tiles
    exact ⟨rfl, nonempty', ih tiles⟩

/-- Every ticket lies within the numbers tiled. -/
theorem bounds (tiles : Tiles start tickets stop) (mem : t ∈ tickets) :
    start ≤ t.start ∧ t.start < t.stop ∧ t.stop ≤ stop := by
  induction tickets generalizing start with
  | nil => cases mem
  | cons first rest ih =>
    obtain ⟨rfl, nonempty, tiles⟩ := tiles
    rcases List.mem_cons.mp mem with rfl | later
    · exact ⟨UInt64.le_refl _, nonempty, tiles.start_le_stop⟩
    · obtain ⟨after, nonempty', before⟩ := ih tiles later
      exact ⟨UInt64.le_trans (UInt64.le_of_lt nonempty) after, nonempty', before⟩

/-- Exactly one of the tickets contains a number that is tiled. -/
theorem filter_contains (tiles : Tiles start tickets stop) (low : start ≤ number)
    (high : number < stop) : ∃ t, tickets.filter (·.contains number) = [t] := by
  induction tickets generalizing start with
  | nil =>
    cases tiles
    exact absurd high (UInt64.not_lt.mpr low)
  | cons first rest ih =>
    obtain ⟨rfl, -, tiles⟩ := tiles
    by_cases here : number < first.stop
    · have held : first.contains number = true := contains_iff.mpr ⟨low, here⟩
      have others : rest.filter (·.contains number) = [] := by
        rw [List.filter_eq_nil_iff]
        intro t mem held'
        have after := UInt64.le_trans (tiles.bounds mem).1 (contains_iff.mp held').1
        exact absurd after (UInt64.not_le.mpr here)
      exact ⟨first, by rw [List.filter_cons, if_pos held, others]⟩
    · have missed : ¬ first.contains number = true := by
        intro held
        exact here (contains_iff.mp held).2
      rw [List.filter_cons, if_neg missed]
      exact ih tiles (UInt64.not_lt.mp here)

/-- No number is held twice, whatever the tickets are listed with. -/
theorem holder_unique {holders : List (Key × Ticket)} {holder holder' : Key × Ticket}
    (tiles : Tiles start (holders.map Prod.snd) stop) (mem : holder ∈ holders)
    (mem' : holder' ∈ holders) (held : holder.2.contains number = true)
    (held' : holder'.2.contains number = true) : holder = holder' := by
  obtain ⟨after, -, before⟩ := tiles.bounds (List.mem_map_of_mem mem)
  obtain ⟨low, high⟩ := contains_iff.mp held
  obtain ⟨t, alone⟩ :=
    tiles.filter_contains (UInt64.le_trans after low) (UInt64.lt_of_lt_of_le high before)
  rw [List.filter_map, List.map_eq_singleton_iff] at alone
  obtain ⟨only, alone, -⟩ := alone
  have found : ∀ {h : Key × Ticket}, h ∈ holders → h.2.contains number = true → h = only := by
    intro h mem held
    have kept : h ∈ holders.filter ((·.contains number) ∘ Prod.snd) :=
      List.mem_filter.mpr ⟨mem, held⟩
    rw [alone] at kept
    exact List.mem_singleton.mp kept
  rw [found mem held, found mem' held']

/-- The tickets of a tiling follow one another. -/
theorem ordered (tiles : Tiles start tickets stop) :
    tickets.Pairwise fun t t' => t.stop ≤ t'.start := by
  induction tickets generalizing start with
  | nil => exact .nil
  | cons first rest ih =>
    obtain ⟨rfl, -, tiles⟩ := tiles
    exact .cons (fun t mem => (tiles.bounds mem).1) (ih tiles)

/-- Tickets end where they end. -/
theorem stop_unique {stop' : UInt64} (tiles : Tiles start tickets stop)
    (tiles' : Tiles start tickets stop') : stop = stop' := by
  induction tickets generalizing start with
  | nil => exact Eq.trans (Eq.symm tiles) tiles'
  | cons first rest ih => exact ih tiles.2.2 tiles'.2.2

end Tiles

end Ticket

end RangeLottery
