import RangeLottery.Proofs.Roster.Order

/-!
Entering holdings on a roster. A sound roster takes an entry exactly when it is compatible with all that
is entered already, although only the two neighbours are looked at, and is sound with it. So holdings
can be entered in one order when they can in any other.
-/

namespace RangeLottery

namespace Roster

variable {r r' : Roster} {id lottery : Key} {t : Ticket} {holdings entered : List Holding}

/-! ### One entry -/

/-- The neighbour below leaves room for the ticket when all holdings below do. -/
theorem Sound.below_clear_iff (sound : r.Sound) :
    (r.below? t.start).any (fun h => t.start < h.ticket.stop) = false ↔
      ∀ h ∈ r.holdings, h.ticket.start ≤ t.start → h.ticket.stop ≤ t.start := by
  cases found : r.below? t.start with
  | none =>
    simp only [Option.any_none, true_iff]
    intro h mem low
    exact absurd low (UInt64.not_le.mpr (sound.of_below?_eq_none found h mem))
  | some last =>
    obtain ⟨mem, low, highest⟩ := sound.of_below? found
    simp only [Option.any_some, decide_eq_false_iff_not, UInt64.not_lt]
    constructor
    · intro clear h mem' low'
      rcases highest h mem' low' with rfl | before
      · exact clear
      · exact UInt64.le_trans before low
    · intro clear
      exact clear last mem low

/-- The neighbour above leaves room for the ticket when all holdings above do. -/
theorem Sound.above_clear_iff (sound : r.Sound) :
    (r.above? t.start).any (fun h => h.ticket.start < t.stop) = false ↔
      ∀ h ∈ r.holdings, t.start ≤ h.ticket.start → t.stop ≤ h.ticket.start := by
  cases found : r.above? t.start with
  | none =>
    simp only [Option.any_none, true_iff]
    intro h mem high
    exact absurd high (UInt64.not_le.mpr (sound.of_above?_eq_none found h mem))
  | some first =>
    obtain ⟨mem, high, lowest⟩ := sound.of_above? found
    simp only [Option.any_some, decide_eq_false_iff_not, UInt64.not_lt]
    constructor
    · intro clear h mem' high'
      rcases lowest h mem' high' with rfl | behind
      · exact clear
      · exact UInt64.le_trans clear
          (UInt64.le_trans (UInt64.le_of_lt (sound.nonempty first mem)) behind)
    · intro clear
      exact clear first mem high

/-- Room on both sides is room from every holding. -/
theorem Sound.clear_iff (sound : r.Sound) (nonempty : t.start < t.stop) :
    ((∀ h ∈ r.holdings, h.ticket.start ≤ t.start → h.ticket.stop ≤ t.start) ∧
      ∀ h ∈ r.holdings, t.start ≤ h.ticket.start → t.stop ≤ h.ticket.start) ↔
      ∀ h ∈ r.holdings, t.Apart h.ticket := by
  constructor
  · rintro ⟨below, above⟩ h mem
    rcases UInt64.le_total t.start h.ticket.start with high | low
    · exact .inl (above h mem high)
    · exact .inr (below h mem low)
  · intro apart
    constructor
    · intro h mem low
      rcases apart h mem with before | behind
      · exact absurd (UInt64.le_trans before low) (UInt64.not_le.mpr nonempty)
      · exact behind
    · intro h mem high
      rcases apart h mem with before | behind
      · exact before
      · exact absurd (UInt64.le_trans behind high) (UInt64.not_le.mpr (sound.nonempty h mem))

/-- An entry is taken when it is a range of the numbers of the lottery, apart from every holding. -/
theorem Sound.insert_eq_ok_iff (sound : r.Sound) :
    r.insert id t = (.ok (), r') ↔
      t.lottery = r.lottery ∧ t.start < t.stop ∧ (∀ h ∈ r.holdings, t.Apart h.ticket) ∧
        r' = { r with holdings :=
          (r.holdings.filter fun h => h.ticket.start < t.start) ++
            ⟨id, t⟩ :: r.holdings.filter fun h => t.start ≤ h.ticket.start } := by
  obtain ⟨taken, dropped⟩ := sound.split_lt t.start
  unfold insert
  split
  · rename_i foreign
    simp [foreign]
  · rename_i own
    have own := Classical.not_not.mp own
    split
    · rename_i reversed
      simp [UInt64.not_lt.mpr reversed]
    · rename_i nonempty
      have nonempty := UInt64.not_le.mp nonempty
      rw [← sound.clear_iff nonempty, ← sound.below_clear_iff, ← sound.above_clear_iff]
      split
      · rename_i blocked
        simp [blocked]
      · rename_i below
        split
        · rename_i blocked
          simp [blocked]
        · rename_i above
          rw [Bool.not_eq_true] at below above
          simp [own, nonempty, below, above, taken, dropped, eq_comm]

/-- The roster behind an entry has that entry more and is sound. -/
theorem Sound.insert (sound : r.Sound) (granted : r.insert id t = (.ok (), r')) :
    r'.Sound ∧ r'.lottery = r.lottery ∧ r'.holdings.Perm (⟨id, t⟩ :: r.holdings) := by
  obtain ⟨own, nonempty, apart, rfl⟩ := sound.insert_eq_ok_iff.mp granted
  obtain ⟨below, above⟩ := (sound.clear_iff nonempty).mpr apart
  have perm : ((r.holdings.filter fun h => h.ticket.start < t.start) ++
      ⟨id, t⟩ :: r.holdings.filter fun h => t.start ≤ h.ticket.start).Perm
        (⟨id, t⟩ :: r.holdings) := by
    rw [← (sound.split_lt t.start).1, ← (sound.split_lt t.start).2]
    refine List.perm_middle.trans ?_
    rw [List.takeWhile_append_dropWhile]
  refine ⟨⟨?_, ?_, ?_⟩, rfl, perm⟩
  · intro h mem
    rcases List.mem_cons.mp (perm.mem_iff.mp mem) with rfl | mem
    · exact own
    · exact sound.own h mem
  · intro h mem
    rcases List.mem_cons.mp (perm.mem_iff.mp mem) with rfl | mem
    · exact nonempty
    · exact sound.nonempty h mem
  · have before : ∀ h ∈ r.holdings.filter (fun h => h.ticket.start < t.start),
        h.ticket.stop ≤ t.start := by
      intro h mem
      obtain ⟨mem, low⟩ := List.mem_filter.mp mem
      exact below h mem (UInt64.le_of_lt (of_decide_eq_true low))
    have behind : ∀ h ∈ r.holdings.filter (fun h => t.start ≤ h.ticket.start),
        t.start ≤ h.ticket.start ∧ t.stop ≤ h.ticket.start := by
      intro h mem
      obtain ⟨mem, high⟩ := List.mem_filter.mp mem
      have high := of_decide_eq_true high
      exact ⟨high, above h mem high⟩
    refine List.pairwise_append.mpr ⟨sound.ordered.filter _,
      List.pairwise_cons.mpr ⟨fun h mem => (behind h mem).2, sound.ordered.filter _⟩, ?_⟩
    intro h mem h' mem'
    rcases List.mem_cons.mp mem' with rfl | mem'
    · exact before h mem
    · exact UInt64.le_trans (before h mem) (behind h' mem').1

/-! ### Many entries -/

/-- Whether holdings are compatible does not depend on their order. -/
theorem Compatible.perm (compatible : Compatible lottery holdings) (perm : holdings.Perm entered) :
    Compatible lottery entered where
  own h mem := compatible.own h (perm.mem_iff.mpr mem)
  nonempty h mem := compatible.nonempty h (perm.mem_iff.mpr mem)
  apart := (perm.pairwise_iff Ticket.Apart.symm).mp compatible.apart

/-- The holdings are entered in turn when they are compatible with one another and with those that are
entered already, and then they are all on the roster. -/
theorem Sound.insertAll (sound : r.Sound) (compatible : Compatible r.lottery (holdings ++ r.holdings)) :
    ∃ r', r.insertAll holdings = .ok r' ∧ r'.Sound ∧ r'.lottery = r.lottery ∧
      r'.holdings.Perm (holdings ++ r.holdings) := by
  induction holdings generalizing r with
  | nil => exact ⟨r, rfl, sound, rfl, .refl _⟩
  | cons first rest ih =>
    have listed : first ∈ first :: rest ++ r.holdings := List.mem_cons_self
    have apart : ∀ h ∈ r.holdings, first.ticket.Apart h.ticket := by
      intro h mem
      exact (List.pairwise_cons.mp compatible.apart).1 h (List.mem_append_right _ mem)
    obtain ⟨next, granted⟩ : ∃ next, r.insert first.id first.ticket = (.ok (), next) :=
      ⟨_, sound.insert_eq_ok_iff.mpr
        ⟨compatible.own first listed, compatible.nonempty first listed, apart, rfl⟩⟩
    obtain ⟨sound', lottery_eq, added⟩ := sound.insert granted
    have rearranged : (rest ++ next.holdings).Perm (first :: rest ++ r.holdings) :=
      (added.append_left rest).trans List.perm_middle
    have compatible' := compatible.perm rearranged.symm
    rw [← lottery_eq] at compatible'
    obtain ⟨r', entered, sound'', lottery_eq', perm⟩ := ih sound' compatible'
    refine ⟨r', ?_, sound'', lottery_eq'.trans lottery_eq, perm.trans rearranged⟩
    rw [Roster.insertAll, granted]
    exact entered

/-- Compatible holdings make a roster, in whatever order they are listed. -/
theorem ofHoldings_of_compatible (compatible : Compatible lottery holdings) :
    ∃ r, ofHoldings lottery holdings = .ok r ∧ r.Sound ∧ r.lottery = lottery ∧
      r.holdings.Perm holdings := by
  have alone : holdings ++ (empty lottery).holdings = holdings := List.append_nil holdings
  have compatible' : Compatible (empty lottery).lottery (holdings ++ (empty lottery).holdings) := by
    rw [alone]
    exact compatible
  obtain ⟨r, entered, sound, lottery_eq, perm⟩ := (sound_empty lottery).insertAll compatible'
  rw [alone] at perm
  exact ⟨r, entered, sound, lottery_eq, perm⟩

end Roster

end RangeLottery
