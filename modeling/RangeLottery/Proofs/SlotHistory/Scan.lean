import RangeLottery.Proofs.SlotHistory.Ageing

/-!
The checkpoint of a deadline as a scan would find it. On entries that descend, the binary search over the
stored history answers as if every entry had been looked at: nothing is past the deadline, or the entry of
the least slot past it is the checkpoint, unless a full history begins behind the deadline and may have
lost an earlier one. What stands behind the entries is not read, and a later deadline does not give an
earlier checkpoint.
-/

namespace RangeLottery

namespace SlotHistory

variable {entries newer older : List SlotHash} {deadline later : UInt64} {sample : SlotHash}

/-- The entries past the deadline, each looked at. -/
def scan (entries : List SlotHash) (deadline : UInt64) : List SlotHash :=
  entries.filter fun entry => deadline < entry.slot

/-- The history is full, all of it is past the deadline, and its oldest entry is not in the next slot, so
that an entry between the two may have been lost. -/
structure Exhausted (entries : List SlotHash) (deadline : UInt64) : Prop where
  all : scan entries deadline = entries
  full : capacity ≤ entries.length
  gap : ∃ oldest, entries.getLast? = some oldest ∧ oldest.slot.toNat ≠ deadline.toNat + 1

/-- The answer is what a scan of the entries says of the deadline. -/
structure AgreesWithScan (entries : List SlotHash) (deadline : UInt64)
    (answer : Except Refusal SlotHash) : Prop where
  early : scan entries deadline = [] → answer = .error .lotteryStillOpen
  expired : Exhausted entries deadline → answer = .error .checkpointExpired
  found : scan entries deadline ≠ [] → ¬ Exhausted entries deadline →
    ∃ sample ∈ scan entries deadline,
      (∀ other ∈ scan entries deadline, sample.slot ≤ other.slot) ∧ answer = .ok sample

theorem scan_append (past : ∀ entry ∈ newer, deadline < entry.slot)
    (notPast : ∀ entry ∈ older, ¬ deadline < entry.slot) :
    scan (newer ++ older) deadline = newer := by
  have all : newer.filter (fun entry => deadline < entry.slot) = newer := by
    simpa using past
  have none : older.filter (fun entry => deadline < entry.slot) = [] := by
    simpa using notPast
  rw [scan, List.filter_append, all, none, List.append_nil]

theorem mem_scan {entry : SlotHash} :
    entry ∈ scan entries deadline ↔ entry ∈ entries ∧ deadline < entry.slot := by
  simp [scan]

/-- The condition that a pick makes on the last entry past the deadline is that of the whole history. -/
theorem exhausted_append_iff (past : ∀ entry ∈ newer, deadline < entry.slot)
    (notPast : ∀ entry ∈ older, ¬ deadline < entry.slot) :
    Exhausted (newer ++ older) deadline ↔
      older = [] ∧ capacity ≤ newer.length ∧
        ∃ oldest, newer.getLast? = some oldest ∧ oldest.slot ≠ Amount.succSaturating deadline := by
  have next : ∀ oldest, newer.getLast? = some oldest →
      (oldest.slot ≠ Amount.succSaturating deadline ↔ oldest.slot.toNat ≠ deadline.toNat + 1) :=
    fun oldest last => ne_succSaturating_iff (past oldest (List.mem_of_getLast? last))
  constructor
  · rintro ⟨all, full, oldest, last, gap⟩
    rw [scan_append past notPast] at all
    obtain rfl := List.self_eq_append_right.mp all
    rw [List.append_nil] at full last
    exact ⟨rfl, full, oldest, last, (next oldest last).mpr gap⟩
  · rintro ⟨rfl, full, oldest, last, gap⟩
    rw [List.append_nil]
    refine ⟨?_, full, oldest, last, (next oldest last).mp gap⟩
    simpa using scan_append past notPast

/-- A pick from entries that descend is what a scan of them says. -/
theorem Descending.agreesWithScan_pick (descending : Descending entries) :
    AgreesWithScan entries deadline (pick entries deadline) := by
  obtain ⟨newer, older, rfl, past, notPast⟩ := descending.eq_append deadline
  have exhausted_iff := exhausted_append_iff past notPast
  constructor
  case early =>
    rw [scan_append past notPast, pick_append_eq_lotteryStillOpen_iff past notPast]
    exact id
  case expired =>
    rw [exhausted_iff, pick_append_eq_checkpointExpired_iff past notPast]
    exact id
  case found =>
    rw [scan_append past notPast]
    intro some kept
    have last := List.getLast?_eq_some_getLast some
    have descending : Descending newer := (List.pairwise_append.mp descending).1
    refine ⟨newer.getLast some, List.getLast_mem some, fun other => descending.last_le last, ?_⟩
    refine (pick_append past notPast).mpr ⟨last, fun none full => ?_⟩
    by_contra gap
    exact kept (exhausted_iff.mpr ⟨none, full, _, last, gap⟩)

/-- What is picked is the first entry after the deadline. -/
theorem AgreesWithScan.firstAfter {answer : Except Refusal SlotHash}
    (agrees : AgreesWithScan entries deadline answer) (ok : answer = .ok sample) :
    FirstAfter entries deadline sample := by
  have some : scan entries deadline ≠ [] := by
    intro none
    rw [agrees.early none] at ok
    cases ok
  have kept : ¬ Exhausted entries deadline := by
    intro exhausted
    rw [agrees.expired exhausted] at ok
    cases ok
  obtain ⟨found, mem, least, ok'⟩ := agrees.found some kept
  rw [ok] at ok'
  cases ok'
  obtain ⟨mem, after⟩ := mem_scan.mp mem
  exact ⟨mem, after, fun other mem after => least other (mem_scan.mpr ⟨mem, after⟩)⟩

/-- Entries that descend have one first entry after the deadline, as those that ascend do. -/
theorem Descending.firstAfter_unique {sample' : SlotHash} (descending : Descending entries)
    (first : FirstAfter entries deadline sample) (first' : FirstAfter entries deadline sample') :
    sample = sample' := by
  have reversed : ∀ {s}, FirstAfter entries deadline s → FirstAfter entries.reverse deadline s :=
    fun first => ⟨by simpa using first.mem, first.after, by simpa using first.least⟩
  exact (reversed first).unique (reversed first') (List.pairwise_reverse.mpr descending)

/-- Unless the history is exhausted, the first entry after the deadline is picked. -/
theorem AgreesWithScan.eq_ok {answer : Except Refusal SlotHash}
    (agrees : AgreesWithScan entries deadline answer) (descending : Descending entries)
    (kept : ¬ Exhausted entries deadline) (first : FirstAfter entries deadline sample) :
    answer = .ok sample := by
  have some : scan entries deadline ≠ [] := List.ne_nil_of_mem (mem_scan.mpr ⟨first.mem, first.after⟩)
  obtain ⟨found, -, -, ok⟩ := agrees.found some kept
  rw [ok, descending.firstAfter_unique (agrees.firstAfter ok) first]

/-- The checkpoint in a stored history of descending entries is found as by a scan, whatever bytes stand
behind the entries, and it does not go back when the deadline goes on. There may be as many entries as
have addressable bytes. -/
theorem checkpoint_agrees_with_scan (descending : Descending entries) (nonempty : entries ≠ [])
    (fits : span entries.length < UInt64.size) (trailing : Bytes) (deadline : UInt64) :
    AgreesWithScan entries deadline (checkpoint (encode entries ++ trailing) deadline) ∧
      (∀ other, checkpoint (encode entries ++ other) deadline =
        checkpoint (encode entries ++ trailing) deadline) ∧
      ∀ other later sample sample', deadline ≤ later →
        checkpoint (encode entries ++ trailing) deadline = .ok sample →
          checkpoint (encode entries ++ other) later = .ok sample' → sample.slot ≤ sample'.slot := by
  have read : ∀ other deadline, checkpoint (encode entries ++ other) deadline =
      pick entries deadline := by
    intro other deadline
    rw [checkpoint, decode?_encode_append nonempty fits]
  have agrees : ∀ deadline, AgreesWithScan entries deadline (pick entries deadline) :=
    fun _ => descending.agreesWithScan_pick
  simp only [read]
  refine ⟨agrees deadline, fun _ => trivial, ?_⟩
  intro _ later sample sample' order ok ok'
  have first := (agrees deadline).firstAfter ok
  have first' := (agrees later).firstAfter ok'
  exact first.least sample' first'.mem (UInt64.lt_of_le_of_lt order first'.after)

/-- Slots 10 to 5990 in steps of ten, newest first: more than a history is sure to keep. -/
def tensNewestFirst : List SlotHash :=
  ((everyTenth 600).drop 1).reverse

theorem descending_tensNewestFirst : Descending tensNewestFirst := by
  have ascending : Ascending (everyTenth 600) := ascending_everyTenth (by decide)
  exact List.pairwise_reverse.mpr (ascending.sublist (List.drop_sublist _ _))

/-- Deadlines before the oldest of these slots, right before it, between two slots and at the newest, with
two bytes behind the entries. -/
theorem checkpoint_agrees_with_scan_of_tens :
    Descending tensNewestFirst ∧ tensNewestFirst ≠ [] ∧
      span tensNewestFirst.length < UInt64.size ∧
      checkpoint (encode tensNewestFirst ++ [1, 2]) 5 = .error .checkpointExpired ∧
      checkpoint (encode tensNewestFirst ++ [1, 2]) 9 = .ok ⟨10, Key.ofNat 1⟩ ∧
      checkpoint (encode tensNewestFirst ++ [1, 2]) 15 = .ok ⟨20, Key.ofNat 2⟩ ∧
      checkpoint (encode tensNewestFirst ++ [1, 2]) 5990 = .error .lotteryStillOpen := by
  have descending := descending_tensNewestFirst
  have nonempty : tensNewestFirst ≠ [] := by decide +kernel
  have fits : span tensNewestFirst.length < UInt64.size := by decide +kernel
  have agrees := fun deadline =>
    (checkpoint_agrees_with_scan descending nonempty fits [1, 2] deadline).1
  have oldest : tensNewestFirst.getLast? = some ⟨10, Key.ofNat 1⟩ := by decide +kernel
  refine ⟨descending, nonempty, fits, ?_, ?_, ?_, ?_⟩
  · have all : scan tensNewestFirst 5 = tensNewestFirst :=
      List.filter_eq_self.mpr (by decide +kernel)
    exact (agrees 5).expired ⟨all, by decide +kernel, _, oldest, by decide⟩
  · have kept : ¬ Exhausted tensNewestFirst 9 := by
      rintro ⟨-, -, last, found, gap⟩
      rw [oldest] at found
      cases found
      exact gap rfl
    exact (agrees 9).eq_ok descending kept ⟨by decide +kernel, by decide, by decide +kernel⟩
  · have kept : ¬ Exhausted tensNewestFirst 15 := by
      rintro ⟨all, -, -⟩
      have past := List.filter_eq_self.mp all _ (List.mem_of_getLast? oldest)
      exact absurd past (by decide)
    exact (agrees 15).eq_ok descending kept ⟨by decide +kernel, by decide, by decide +kernel⟩
  · exact (agrees 5990).early (by decide +kernel)

end SlotHistory

end RangeLottery
