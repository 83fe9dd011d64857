import RangeLottery.Proofs.Run.Moment
import RangeLottery.Proofs.SlotHistory.Checkpoint

/-!
The draw of a lottery. Over a chain of slots that only grows, the number that a lottery draws is fixed
when its deadline is reached: by the hash of the first slot after the deadline, by the key of the lottery
and by the numbers sold until then. Who asks for the draw, when, and with which part of the chain in
sight has no influence on it.
-/

namespace RangeLottery

/-! ### Drawn numbers -/

/-- Every moment of the run finds in the slot hashes the window over some part of the chain. -/
def Book.Follows (chain : List SlotHash) : Book → List Moment → Prop
  | _, [] => True
  | b, m :: rest =>
    (∃ seen, ((m.book b).account Known.slotHashes).data =
      SlotHistory.encode (SlotHistory.window (chain.take seen))) ∧
    Follows chain (m.outcome b).book rest

theorem Book.follows_concat {chain : List SlotHash} {b : Book} {moments : List Moment} {m : Moment} :
    Follows chain b (moments ++ [m]) ↔
      Follows chain b moments ∧
        ∃ seen, ((m.book (b.through moments)).account Known.slotHashes).data =
          SlotHistory.encode (SlotHistory.window (chain.take seen)) := by
  induction moments generalizing b with
  | nil => simp [Follows]
  | cons first rest ih =>
    rw [List.cons_append, Follows, Follows, ih, and_assoc]
    rfl

/-- The number is derived from the first entry of the chain after the deadline, for the lottery at `id`
and the numbers that it has sold. -/
def Lottery.FairlyDrawn (l : Lottery) (chain : List SlotHash) (id : Key) (number : UInt64) : Prop :=
  ∃ sample, SlotHistory.FirstAfter chain l.deadline sample ∧
    WinningNumber.derive sample.hash id l.sold = .ok number

section Moves

variable {b : Book} {slot : UInt64} {id : Key} {chain : List SlotHash}

/-- A number is only drawn from the checkpoint in the slot hashes, and is kept. -/
theorem Lottery.Moves.fairlyDrawn {before after : Option Lottery} {seen : Nat}
    (moves : Lottery.Moves b slot id before after) (ascending : SlotHistory.Ascending chain)
    (found : (b.account Known.slotHashes).data =
      SlotHistory.encode (SlotHistory.window (chain.take seen)))
    (drawn : ∀ l number, before = some l → l.winningNumber? = some number →
      l.FairlyDrawn chain id number) :
    ∀ l number, after = some l → l.winningNumber? = some number →
      l.FairlyDrawn chain id number := by
  rintro l number rfl number_eq
  cases moves with
  | kept => exact drawn l number rfl number_eq
  | launched granted =>
    obtain ⟨-, -, rfl⟩ := Lottery.launch_eq_ok_iff.mp granted
    cases number_eq
  | issued granted =>
    obtain ⟨undrawn, -, -, -, -, -, rfl⟩ := Lottery.issue_eq_ok_iff.mp granted
    simp [winningNumber?, undrawn] at number_eq
  | @drawn l₀ _ sample checkpoint granted =>
    obtain ⟨-, -, derived, after⟩ := Lottery.draw_eq_ok_iff.mp granted
    have kind : l.kind = .drawn := by rw [after]
    have deadline : l.deadline = l₀.deadline := by rw [after]
    have sold : l.sold = l₀.sold := by rw [after]
    have same : l.number = number := by simpa [winningNumber?, kind] using number_eq
    rw [found] at checkpoint
    refine ⟨sample, ?_, ?_⟩
    · rw [deadline]
      exact SlotHistory.firstAfter_of_checkpoint ascending checkpoint
    · rw [sold, ← same]
      exact derived
  | @settled l₀ _ t pool payout granted =>
    obtain ⟨kind, -, -, -, rfl⟩ := Lottery.settle_eq_ok_iff.mp granted
    have number_eq' : l₀.winningNumber? = some number := by
      rw [← number_eq]
      simp [winningNumber?, kind]
    exact drawn l₀ number rfl number_eq'
  | voided granted =>
    obtain ⟨-, -, -, rfl⟩ := Lottery.void_eq_ok_iff.mp granted
    cases number_eq

/-- From its deadline on, a lottery sells nothing, and none is opened with that deadline. -/
theorem Lottery.Moves.sold_of_late {before : Option Lottery} {l : Lottery}
    (moves : Lottery.Moves b slot id before (some l)) (late : l.deadline ≤ slot) :
    ∃ l₀, before = some l₀ ∧ l₀.SameTerms l ∧ l₀.sold = l.sold := by
  cases before with
  | none =>
    cases moves with
    | launched granted =>
      obtain ⟨-, early, rfl⟩ := Lottery.launch_eq_ok_iff.mp granted
      exact absurd early (UInt64.not_lt.mpr late)
  | some l₀ =>
    refine ⟨l₀, rfl, moves.sameTerms, ?_⟩
    rcases moves.sold_eq with same | ⟨buyer, amount, t, granted⟩
    · exact same.symm
    · obtain ⟨-, early, -, -, -, -, rfl⟩ := Lottery.issue_eq_ok_iff.mp granted
      exact absurd early (UInt64.not_lt.mpr late)

end Moves

/-! ### Runs over one chain -/

section Run

variable {b : Book} {chain : List SlotHash} {moments later : List Moment} {key : Key} {l : Lottery}
  {number : UInt64} {deadline : UInt64}

/-- Every number that is drawn in a run over the chain is fairly drawn. -/
theorem Book.fairlyDrawn_through (unclaimed : b.Unclaimed)
    (ascending : SlotHistory.Ascending chain) (follows : Book.Follows chain b moments)
    (recorded : ((b.through moments).account key).lottery? = some l)
    (drawn : l.winningNumber? = some number) : l.FairlyDrawn chain key number := by
  induction moments using List.reverseRecOn generalizing l number with
  | nil => exact absurd (Account.lottery?_eq_some_iff.mp recorded).1 (unclaimed key)
  | append_singleton earlier m ih =>
    obtain ⟨follows, seen, found⟩ := follows_concat.mp follows
    rw [through_concat] at recorded
    exact (m.moves (b.through earlier) key).fairlyDrawn ascending found
      (fun l number recorded drawn => ih follows recorded drawn) l number recorded drawn

/-- What happens from the deadline on does not change the numbers sold. -/
theorem Book.sold_through_late (late : ∀ m ∈ later, l.deadline ≤ m.step.slot)
    (recorded : ((b.through later).account key).lottery? = some l) :
    ∃ l₀, (b.account key).lottery? = some l₀ ∧ l₀.SameTerms l ∧ l₀.sold = l.sold := by
  induction later using List.reverseRecOn generalizing l with
  | nil => exact ⟨l, recorded, rfl, rfl⟩
  | append_singleton earlier m ih =>
    rw [through_concat] at recorded
    obtain ⟨l₁, recorded₁, same, sold⟩ :=
      (recorded ▸ m.moves (b.through earlier) key).sold_of_late (late m (by simp))
    have earlierLate : ∀ m' ∈ earlier, l₁.deadline ≤ m'.step.slot := by
      intro m' mem
      rw [← same.deadline_eq]
      exact late m' (List.mem_append_left _ mem)
    obtain ⟨l₀, recorded₀, same', sold'⟩ := ih earlierLate recorded₁
    exact ⟨l₀, recorded₀, same'.trans same, sold'.trans sold⟩

/-- The part of a run below the deadline. -/
def Moment.early (deadline : UInt64) (moments : List Moment) : List Moment :=
  moments.takeWhile fun m => m.step.slot < deadline

/-- Behind the part below the deadline, the slots of a run have reached it. -/
theorem Moment.late_of_ordered (ordered : moments.Pairwise (·.step.slot ≤ ·.step.slot)) :
    ∀ m ∈ moments.dropWhile fun m => m.step.slot < deadline, deadline ≤ m.step.slot := by
  induction moments with
  | nil => simp
  | cons first rest ih =>
    obtain ⟨atLeast, ordered⟩ := List.pairwise_cons.mp ordered
    rw [List.dropWhile_cons]
    split
    · exact ih ordered
    · rename_i reached
      have reached := UInt64.not_lt.mp fun early => reached (decide_eq_true early)
      intro m mem
      rcases List.mem_cons.mp mem with rfl | behind
      · exact reached
      · exact UInt64.le_trans reached (atLeast m behind)

/-- A run is its part below the deadline and what follows. -/
theorem Book.through_early (b : Book) (deadline : UInt64) (moments : List Moment) :
    b.through moments = (b.through (Moment.early deadline moments)).through
      (moments.dropWhile fun m => m.step.slot < deadline) := by
  unfold Moment.early
  rw [← through_append, List.takeWhile_append_dropWhile]

/-- What was sold when the deadline was reached is what the number is drawn from. -/
theorem Book.sold_at_deadline (ordered : moments.Pairwise (·.step.slot ≤ ·.step.slot))
    (recorded : ((b.through moments).account key).lottery? = some l) :
    ∃ l₀, ((b.through (Moment.early l.deadline moments)).account key).lottery? = some l₀ ∧
      l₀.SameTerms l ∧ l₀.sold = l.sold := by
  rw [through_early b l.deadline] at recorded
  exact sold_through_late (Moment.late_of_ordered ordered) recorded

/-- A lottery that is recorded when a deadline is reached keeps its own. -/
theorem Book.deadline_kept {l₀ : Lottery}
    (early : ((b.through (Moment.early deadline moments)).account key).lottery? = some l₀)
    (recorded : ((b.through moments).account key).lottery? = some l) :
    l.deadline = l₀.deadline := by
  obtain ⟨l', recorded', same⟩ := (lasting_through _ _).lottery key l₀ early
  rw [← through_early, recorded] at recorded'
  cases recorded'
  exact same.deadline_eq

/-- Two runs over one chain that do the same until a deadline draw the same number for each lottery
with that deadline, whatever they do from then on. The number is derived from the first slot of the
chain after the deadline, the key of the lottery and what it had sold when the deadline was reached. -/
theorem draw_fixed_at_deadline (unclaimed : b.Unclaimed)
    (ascending : SlotHistory.Ascending chain) {moments' : List Moment}
    (ordered : moments.Pairwise (·.step.slot ≤ ·.step.slot))
    (ordered' : moments'.Pairwise (·.step.slot ≤ ·.step.slot))
    (follows : Book.Follows chain b moments) (follows' : Book.Follows chain b moments')
    (same : Moment.early deadline moments = Moment.early deadline moments') {l' : Lottery}
    (recorded : ((b.through moments).account key).lottery? = some l)
    (recorded' : ((b.through moments').account key).lottery? = some l')
    (ends : l.deadline = deadline) {number' : UInt64} (drawn : l.winningNumber? = some number)
    (drawn' : l'.winningNumber? = some number') :
    number = number' ∧ ∃ sample l₀, SlotHistory.FirstAfter chain deadline sample ∧
      ((b.through (Moment.early deadline moments)).account key).lottery? = some l₀ ∧
      WinningNumber.derive sample.hash key l₀.sold = .ok number := by
  obtain ⟨sample, first, derived⟩ :=
    Book.fairlyDrawn_through unclaimed ascending follows recorded drawn
  obtain ⟨sample', first', derived'⟩ :=
    Book.fairlyDrawn_through unclaimed ascending follows' recorded' drawn'
  obtain ⟨l₀, early, -, sold⟩ := Book.sold_at_deadline ordered recorded
  obtain ⟨l₁, early', -, sold'⟩ := Book.sold_at_deadline ordered' recorded'
  -- The runs reach the deadline with one book, so the two records there are one.
  rw [ends] at early first
  have ends' : l'.deadline = deadline := by
    have kept := Book.deadline_kept early recorded
    rw [same] at early
    rw [Book.deadline_kept early recorded', ← kept, ends]
  rw [ends', ← same, early] at early'
  cases early'
  rw [ends'] at first'
  rw [← sold] at derived
  rw [← sold', ← first.unique first' ascending, derived] at derived'
  exact ⟨Except.ok.inj derived', sample, l₀, first, early, derived⟩

end Run

/-- The buyer draws the number at slot 70, with more of the chain in sight. -/
def Sample.lateDrawing : Moment where
  hashes? := some (SlotHistory.encode (chain.take 4).reverse)
  step := ⟨70, Client.draw Known.lotteryProgram lottery buyer⟩

/-- A run over the sample chain that opens, sells and then draws. -/
theorem Sample.follows_of_draw {m : Moment} (seen : Nat)
    (found : ((m.book purchased).account Known.slotHashes).data =
      SlotHistory.encode (SlotHistory.window (chain.take seen))) :
    Book.Follows chain book [opening, purchase, m] := by
  refine ⟨⟨1, by decide +kernel⟩, ?_⟩
  rw [opening_done.2]
  refine ⟨⟨1, by decide +kernel⟩, ?_⟩
  rw [purchase_done.2]
  exact ⟨⟨seen, found⟩, trivial⟩

/-- Two callers at two slots draw one number for the sample lottery, from the hash of slot 51. -/
theorem draw_fixed_at_deadline_for_two_callers :
    ∃ number, WinningNumber.derive (.ofNat 102) Sample.lottery 40 = .ok number ∧
      ((Sample.drawing.outcome Sample.purchased).book.account Sample.lottery).lottery? =
        some { Sample.launched with kind := .drawn, number, sold := 40 } ∧
      ((Sample.lateDrawing.outcome Sample.purchased).book.account Sample.lottery).lottery? =
        some { Sample.launched with kind := .drawn, number, sold := 40 } := by
  have recorded : ((Sample.drawing.outcome Sample.purchased).book.account
      Sample.lottery).lottery? =
        some { Sample.launched with kind := .drawn, number := 19, sold := 40 } := by
    decide +kernel
  have recorded' : ((Sample.lateDrawing.outcome Sample.purchased).book.account
      Sample.lottery).lottery? =
        some { Sample.launched with kind := .drawn, number := 19, sold := 40 } := by
    decide +kernel
  have ascending : SlotHistory.Ascending Sample.chain := by
    unfold SlotHistory.Ascending
    decide
  have reached : ∀ m ∈ [Sample.drawing, Sample.lateDrawing],
      Moment.early 50 [Sample.opening, Sample.purchase, m] =
        [Sample.opening, Sample.purchase] := by
    decide +kernel
  obtain ⟨-, sample, l₀, first, sold, derived⟩ := draw_fixed_at_deadline Sample.unclaimed ascending
    (by decide) (by decide) (Sample.follows_of_draw 3 (by decide +kernel))
    (Sample.follows_of_draw 4 (by decide +kernel))
    ((reached _ (by simp)).trans (reached _ (by simp)).symm)
    (Sample.through_purchase_cons _ ▸ recorded) (Sample.through_purchase_cons _ ▸ recorded')
    rfl rfl rfl
  have third : SlotHistory.FirstAfter Sample.chain 50 ⟨51, .ofNat 102⟩ :=
    ⟨by decide, by decide, by decide⟩
  have sold' : (Sample.purchased.account Sample.lottery).lottery? =
      some { Sample.launched with sold := 40 } := by
    decide +kernel
  rw [first.unique third ascending] at derived
  rw [reached _ (by simp), Sample.through_purchase, sold'] at sold
  cases sold
  exact ⟨19, derived, recorded, recorded'⟩

end RangeLottery
