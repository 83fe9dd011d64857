import RangeLottery.Proofs.Roster.Insertion

/-!
Rosters as sets of ranges. A roster on which entries were tried one after another, in any order, holds
exactly those that were taken. An insertion looks at two neighbours and a look-up at one. Both answer as
if they had gone through all holdings, because the ranges on a roster are in order and no two of them
have a number in common.
-/

namespace RangeLottery

namespace Ticket

variable {t t' : Ticket}

/-- No number is in both ranges. -/
def Disjoint (t t' : Ticket) : Prop :=
  ∀ number, ¬ (t.contains number = true ∧ t'.contains number = true)

theorem contains_start (nonempty : t.start < t.stop) : t.contains t.start = true :=
  contains_iff.mpr ⟨UInt64.le_refl _, nonempty⟩

/-- Ranges that are not empty are disjoint when one of them stops before the other starts. -/
theorem disjoint_iff_apart (nonempty : t.start < t.stop) (nonempty' : t'.start < t'.stop) :
    t.Disjoint t' ↔ t.Apart t' := by
  constructor
  · intro disjoint
    -- The later of the two starts is in both ranges unless the other range has stopped there.
    rcases UInt64.le_total t.start t'.start with before | behind
    · refine .inl (UInt64.not_lt.mp fun within => disjoint t'.start ⟨?_, contains_start nonempty'⟩)
      exact contains_iff.mpr ⟨before, within⟩
    · refine .inr (UInt64.not_lt.mp fun within => disjoint t.start ⟨contains_start nonempty, ?_⟩)
      exact contains_iff.mpr ⟨behind, within⟩
  · rintro apart number ⟨held, held'⟩
    obtain ⟨low, high⟩ := contains_iff.mp held
    obtain ⟨low', high'⟩ := contains_iff.mp held'
    rcases apart with before | behind
    · exact absurd (UInt64.le_trans before low') (UInt64.not_le.mpr high)
    · exact absurd (UInt64.le_trans behind low) (UInt64.not_le.mpr high')

end Ticket

namespace Roster

variable {r r' : Roster} {id : Key} {t : Ticket} {number : UInt64} {h h' : Holding}

/-! ### Entries tried in turn -/

/-- The roster after the entries were tried in turn, taken or not. -/
def after (r : Roster) (entries : List Holding) : Roster :=
  entries.foldl (fun r h => (r.insert h.id h.ticket).2) r

/-- The entries that are taken when they are tried in turn. -/
def taken (r : Roster) : List Holding → List Holding
  | [] => []
  | h :: rest =>
    match r.insert h.id h.ticket with
    | (.ok (), entered) => h :: entered.taken rest
    | (.error _, kept) => kept.taken rest

/-- A refused entry leaves the roster as it was. -/
theorem eq_of_insert_refused {reason : Refusal}
    (refused : r.insert id t = (.error reason, r')) : r' = r := by
  unfold insert at refused
  repeat' split at refused
  all_goals cases refused
  all_goals rfl

/-- What is tried on a sound roster leaves it sound, and adds what was taken. -/
theorem Sound.after (sound : r.Sound) (entries : List Holding) :
    (r.after entries).Sound ∧ (r.after entries).lottery = r.lottery ∧
      (r.after entries).holdings.Perm (r.taken entries ++ r.holdings) := by
  induction entries generalizing r with
  | nil => exact ⟨sound, rfl, .refl _⟩
  | cons first rest ih =>
    rw [Roster.after, List.foldl_cons, taken]
    rcases outcome : r.insert first.id first.ticket with ⟨reason | _, next⟩
    · rw [eq_of_insert_refused outcome]
      exact ih sound
    · obtain ⟨sound', lottery_eq, added⟩ := sound.insert outcome
      obtain ⟨sound'', lottery_eq', perm⟩ := ih sound'
      refine ⟨sound'', lottery_eq'.trans lottery_eq, perm.trans ?_⟩
      exact (added.append_left _).trans List.perm_middle

/-! ### One entry, judged by all holdings -/

theorem insert_of_foreign (foreign : t.lottery ≠ r.lottery) :
    r.insert id t = (.error .invalidAccount, r) := by
  rw [insert, if_pos foreign]

/-- A ticket of the lottery that is refused is refused for its range. -/
theorem insert_cases_of_own (id : Key) (own : t.lottery = r.lottery) :
    (∃ r', r.insert id t = (.ok (), r')) ∨ r.insert id t = (.error .invalidTicketRange, r) := by
  rw [insert, if_neg (not_not_intro own)]
  repeat' split
  all_goals simp

theorem Sound.insert_granted_iff (sound : r.Sound) :
    (r.insert id t).1 = .ok () ↔
      t.lottery = r.lottery ∧ t.start < t.stop ∧ ∀ h ∈ r.holdings, t.Disjoint h.ticket := by
  have granted_iff : (r.insert id t).1 = .ok () ↔ ∃ r', r.insert id t = (.ok (), r') := by
    constructor
    · intro granted
      exact ⟨(r.insert id t).2, Prod.ext granted rfl⟩
    · rintro ⟨r', granted⟩
      rw [granted]
  simp only [granted_iff, sound.insert_eq_ok_iff, exists_and_left, exists_eq, and_true]
  refine and_congr_right fun _ => and_congr_right fun nonempty => ?_
  refine forall_congr' fun h => forall_congr' fun mem => ?_
  exact (Ticket.disjoint_iff_apart nonempty (sound.nonempty h mem)).symm

/-! ### Looking up, among all holdings -/

theorem Sound.find?_eq_none_iff (sound : r.Sound) :
    r.find? number = none ↔ ∀ h ∈ r.holdings, h.ticket.contains number = false := by
  rw [Option.eq_none_iff_forall_ne_some]
  constructor
  · intro missing h mem
    rw [← Bool.not_eq_true]
    intro holds
    exact missing h (sound.find?_eq_some_iff.mpr ⟨mem, holds⟩)
  · intro missing h found
    obtain ⟨mem, holds⟩ := sound.find?_eq_some_iff.mp found
    rw [missing h mem] at holds
    cases holds

/-- At most one holding contains a number. -/
theorem Sound.holding_unique (sound : r.Sound) (mem : h ∈ r.holdings) (mem' : h' ∈ r.holdings)
    (holds : h.ticket.contains number = true) (holds' : h'.ticket.contains number = true) :
    h = h' := by
  have found := sound.find?_eq_some_iff.mpr ⟨mem, holds⟩
  have found' := sound.find?_eq_some_iff.mpr ⟨mem', holds'⟩
  exact Option.some.inj (found.symm.trans found')

/-- The look-up finds what a scan of the holdings finds. -/
theorem Sound.find?_eq_scan (sound : r.Sound) (number : UInt64) :
    r.find? number = r.holdings.find? fun h => h.ticket.contains number := by
  cases scanned : r.holdings.find? fun h => h.ticket.contains number with
  | none =>
    rw [sound.find?_eq_none_iff]
    intro h mem
    rw [← Bool.not_eq_true]
    exact List.find?_eq_none.mp scanned h mem
  | some h =>
    obtain ⟨holds, -⟩ := List.find?_eq_some_iff_append.mp scanned
    exact sound.find?_eq_some_iff.mpr ⟨List.mem_of_find?_eq_some scanned, holds⟩

/-! ### Rosters as sets -/

/-- The roster of `lottery` has the holdings `entered`: ranges of its numbers, no two of which have a
number in common, each under its start. What an insertion or a look-up says is true of all of them. -/
structure RangeSet (r : Roster) (lottery : Key) (entered : List Holding) : Prop where
  own : ∀ h ∈ r.holdings, h.ticket.lottery = lottery
  nonempty : ∀ h ∈ r.holdings, h.ticket.start < h.ticket.stop
  keyed : ∀ h ∈ r.holdings, ∀ h' ∈ r.holdings, h.ticket.start = h'.ticket.start → h = h'
  disjoint : r.holdings.Pairwise fun h h' => h.ticket.Disjoint h'.ticket
  ordered : r.holdings.Pairwise fun h h' => h.ticket.start < h'.ticket.start
  complete : r.holdings.Perm entered
  takes : ∀ id t, (r.insert id t).1 = .ok () ↔
    t.lottery = lottery ∧ t.start < t.stop ∧ ∀ h ∈ r.holdings, t.Disjoint h.ticket
  foreign : ∀ id t, t.lottery ≠ lottery → (r.insert id t).1 = .error .invalidAccount
  clashes : ∀ id t, t.lottery = lottery →
    ¬ (t.start < t.stop ∧ ∀ h ∈ r.holdings, t.Disjoint h.ticket) →
      (r.insert id t).1 = .error .invalidTicketRange
  finds : ∀ number h, r.find? number = some h ↔ h ∈ r.holdings ∧ h.ticket.contains number = true
  misses : ∀ number, r.find? number = none ↔ ∀ h ∈ r.holdings, h.ticket.contains number = false
  unique : ∀ number, ∀ h ∈ r.holdings, ∀ h' ∈ r.holdings,
    h.ticket.contains number = true → h'.ticket.contains number = true → h = h'
  scans : ∀ number, r.find? number = r.holdings.find? fun h => h.ticket.contains number

theorem Sound.rangeSet (sound : r.Sound) : r.RangeSet r.lottery r.holdings where
  own := sound.own
  nonempty := sound.nonempty
  keyed := by
    intro h mem h' mem' same
    -- Both contain the start that they share.
    have holds := Ticket.contains_start (sound.nonempty h mem)
    have holds' := Ticket.contains_start (sound.nonempty h' mem')
    rw [← same] at holds'
    exact sound.holding_unique mem mem' holds holds'
  disjoint := by
    refine List.Pairwise.imp_of_mem ?_ sound.ordered
    intro h h' mem mem' before
    exact (Ticket.disjoint_iff_apart (sound.nonempty h mem) (sound.nonempty h' mem')).mpr (.inl before)
  ordered := by
    refine List.Pairwise.imp_of_mem ?_ sound.ordered
    intro h h' mem _ before
    exact UInt64.lt_of_lt_of_le (sound.nonempty h mem) before
  complete := .refl _
  takes _ _ := sound.insert_granted_iff
  foreign _ _ foreign := by rw [insert_of_foreign foreign]
  clashes id t own clash := by
    rcases insert_cases_of_own id own with ⟨r', granted⟩ | refused
    · have granted := sound.insert_granted_iff.mp (congrArg Prod.fst granted)
      exact absurd granted.2 clash
    · rw [refused]
  finds _ _ := sound.find?_eq_some_iff
  misses _ := sound.find?_eq_none_iff
  unique _ _ mem _ mem' holds holds' := sound.holding_unique mem mem' holds holds'
  scans := sound.find?_eq_scan

/-- Whatever entries are tried on the empty roster of a lottery, in whatever order, the roster is the set
of the ranges that were taken. -/
theorem rangeSet_after_entries (lottery : Key) (entries : List Holding) :
    ((empty lottery).after entries).RangeSet lottery ((empty lottery).taken entries) := by
  obtain ⟨sound, lottery_eq, perm⟩ := (sound_empty lottery).after entries
  rw [show (empty lottery).holdings = [] from rfl, List.append_nil] at perm
  have set := sound.rangeSet
  rw [lottery_eq] at set
  exact { set with complete := perm }

/-- Of ranges that touch, both are taken. One that swallows another, one that is empty and one of another
lottery are not. -/
example (account buyer : Key) :
    let lottery := Key.ofNat 1
    (empty lottery).taken [⟨account, ⟨lottery, buyer, 20, 30⟩⟩, ⟨account, ⟨lottery, buyer, 10, 20⟩⟩,
        ⟨account, ⟨lottery, buyer, 5, 25⟩⟩, ⟨account, ⟨lottery, buyer, 7, 7⟩⟩,
        ⟨account, ⟨.ofNat 2, buyer, 40, 50⟩⟩] =
      [⟨account, ⟨lottery, buyer, 20, 30⟩⟩, ⟨account, ⟨lottery, buyer, 10, 20⟩⟩] := by
  rfl

end Roster

end RangeLottery
