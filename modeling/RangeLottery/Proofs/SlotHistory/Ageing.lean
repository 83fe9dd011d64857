import Mathlib.Data.List.Induction
import RangeLottery.Proofs.SlotHistory.Checkpoint

/-!
How the reading of a deadline ages. The stored history is a window over a chain that only grows. As long
as nothing in the chain lies past the deadline the reading is refused as too early; then it is the first
entry after the deadline, always the same one; and once the window may have lost that entry it is refused
as expired, for ever. A window has overrun the deadline if it is full and leaves a slot between the
deadline and its oldest entry: that is all that the reading can know of what was lost, so it also expires
while the entry is still there, if the entry is the oldest of a full window and not in the very next slot.
-/

namespace RangeLottery

namespace SlotHistory

variable {entries newer older chain part : List SlotHash} {deadline : UInt64} {entry sample : SlotHash}

/-! ### Refused readings -/

theorem pick_append_eq_lotteryStillOpen_iff (past : ∀ entry ∈ newer, deadline < entry.slot)
    (notPast : ∀ entry ∈ older, ¬ deadline < entry.slot) :
    pick (newer ++ older) deadline = .error .lotteryStillOpen ↔ newer = [] := by
  simp only [pick, newerThan_append past notPast]
  cases last : newer.getLast? with
  | none => simpa using last
  | some oldest =>
    have nonempty : newer ≠ [] := by
      rintro rfl
      cases last
    dsimp only
    split <;> simp [nonempty]

theorem pick_append_eq_checkpointExpired_iff (past : ∀ entry ∈ newer, deadline < entry.slot)
    (notPast : ∀ entry ∈ older, ¬ deadline < entry.slot) :
    pick (newer ++ older) deadline = .error .checkpointExpired ↔
      older = [] ∧ capacity ≤ newer.length ∧
        ∃ oldest, newer.getLast? = some oldest ∧ oldest.slot ≠ Amount.succSaturating deadline := by
  simp only [pick, newerThan_append past notPast, List.length_append]
  cases newer.getLast? with
  | none => simp
  | some oldest =>
    have whole : newer.length = newer.length + older.length ↔ older = [] := by
      rw [← List.length_eq_zero_iff]
      omega
    simp only [Option.some.injEq, exists_eq_left', whole]
    split
    · rename_i expired
      obtain ⟨rfl, full, skipped⟩ := expired
      simpa using And.intro full skipped
    · rename_i kept
      simp only [reduceCtorEq, false_iff]
      rintro ⟨rfl, full, skipped⟩
      exact kept ⟨rfl, by simpa using full, skipped⟩

/-- The entries fill a history, and all of them lie behind the slot next to the deadline. -/
structure Overrun (entries : List SlotHash) (deadline : UInt64) : Prop where
  full : entries.length = capacity
  beyond : ∀ entry ∈ entries, deadline.toNat + 1 < entry.slot.toNat

/-- The slot next to a deadline, where there is a later one. -/
theorem toNat_succSaturating (below : deadline < entry.slot) :
    (Amount.succSaturating deadline).toNat = deadline.toNat + 1 := by
  have below := UInt64.lt_iff_toNat_lt.mp below
  have bound := entry.slot.toNat_lt_size
  unfold Amount.succSaturating
  cases next : Amount.add? deadline 1 with
  | none =>
    have wide : UInt64.size ≤ deadline.toNat + 1 := Amount.add?_eq_none_iff.mp next
    omega
  | some sum => exact (Amount.add?_eq_some_iff.mp next).symm

theorem ne_succSaturating_iff (below : deadline < entry.slot) :
    entry.slot ≠ Amount.succSaturating deadline ↔ entry.slot.toNat ≠ deadline.toNat + 1 := by
  rw [ne_eq, ← UInt64.toNat_inj, toNat_succSaturating below]

theorem Descending.pick_eq_lotteryStillOpen_iff (descending : Descending entries) :
    pick entries deadline = .error .lotteryStillOpen ↔
      ∀ entry ∈ entries, ¬ deadline < entry.slot := by
  obtain ⟨newer, older, rfl, past, notPast⟩ := descending.eq_append deadline
  rw [pick_append_eq_lotteryStillOpen_iff past notPast]
  constructor
  · rintro rfl entry mem
    exact notPast entry mem
  · intro early
    apply List.eq_nil_iff_forall_not_mem.mpr
    intro entry mem
    exact early entry (List.mem_append_left _ mem) (past entry mem)

theorem Descending.pick_eq_checkpointExpired_iff (descending : Descending entries)
    (few : entries.length ≤ capacity) :
    pick entries deadline = .error .checkpointExpired ↔ Overrun entries deadline := by
  obtain ⟨newer, older, rfl, past, notPast⟩ := descending.eq_append deadline
  rw [pick_append_eq_checkpointExpired_iff past notPast]
  constructor
  · rintro ⟨rfl, full, oldest, last, skipped⟩
    rw [List.append_nil] at few descending ⊢
    refine ⟨Nat.le_antisymm few full, ?_⟩
    -- The oldest entry is past the deadline and not in the next slot, and the others are newer.
    intro entry mem
    have after := past oldest (List.mem_of_getLast? last)
    have apart := (ne_succSaturating_iff after).mp skipped
    have least := UInt64.le_iff_toNat_le.mp (descending.last_le last mem)
    have after := UInt64.lt_iff_toNat_lt.mp after
    omega
  · rintro ⟨full, beyond⟩
    have none : older = [] := by
      apply List.eq_nil_iff_forall_not_mem.mpr
      intro entry mem
      have far := beyond entry (List.mem_append_right _ mem)
      exact notPast entry mem (UInt64.lt_iff_toNat_lt.mpr (by omega))
    subst none
    rw [List.append_nil] at full beyond
    have nonempty : newer ≠ [] := by
      rintro rfl
      cases full
    refine ⟨rfl, Nat.le_of_eq full.symm, newer.getLast nonempty,
      List.getLast?_eq_some_getLast nonempty, ?_⟩
    have mem := List.getLast_mem nonempty
    exact (ne_succSaturating_iff (past _ mem)).mpr (Nat.ne_of_gt (beyond _ mem))

/-! ### A growing chain -/

/-- What the stored window over `part` says of the deadline. -/
def reading (part : List SlotHash) (deadline : UInt64) : Except Refusal SlotHash :=
  checkpoint (encode (window part)) deadline

/-- The window over a chain that has grown by one entry: the entry is in front, and the oldest is lost if
the window was full. -/
theorem window_concat (part : List SlotHash) (entry : SlotHash) :
    window (part ++ [entry]) = entry :: (window part).take (capacity - 1) := by
  rw [window, window, List.reverse_append, List.reverse_singleton, List.singleton_append,
    List.take_take]
  rfl

/-- A reading is too early, an entry, or expired. -/
theorem reading_cases (nonempty : part ≠ []) (deadline : UInt64) :
    reading part deadline = .error .lotteryStillOpen ∨
      (∃ sample, reading part deadline = .ok sample) ∨
        reading part deadline = .error .checkpointExpired := by
  rw [reading, checkpoint_encode_window nonempty]
  simp only [pick]
  cases (newerThan (window part) deadline).getLast? with
  | none => exact .inl rfl
  | some oldest =>
    dsimp only
    split
    · exact .inr (.inr rfl)
    · exact .inr (.inl ⟨oldest, rfl⟩)

/-- What a window has lost, it lost for being full. -/
theorem length_window_of_dropped (mem : entry ∈ part) (dropped : entry ∉ window part) :
    (window part).length = capacity := by
  rw [window, List.length_take]
  rcases Nat.lt_or_ge capacity part.reverse.length with long | short
  · exact Nat.min_eq_left (Nat.le_of_lt long)
  · rw [window, List.take_of_length_le short] at dropped
    exact absurd (List.mem_reverse.mpr mem) dropped

section Part

variable (ascending : Ascending part)

include ascending

theorem Ascending.descending_window : Descending (window part) :=
  List.Pairwise.sublist (List.take_sublist _ _) (List.pairwise_reverse.mpr ascending)

/-- An entry of the chain that the window has lost is older than all that are in the window. -/
theorem Ascending.lt_of_dropped (mem : entry ∈ part) (dropped : entry ∉ window part)
    {kept : SlotHash} (inside : kept ∈ window part) : entry.slot < kept.slot := by
  have descending : Descending part.reverse := List.pairwise_reverse.mpr ascending
  rw [← part.reverse.take_append_drop capacity] at descending
  obtain ⟨-, -, apart⟩ := List.pairwise_append.mp descending
  rw [← List.mem_reverse, ← part.reverse.take_append_drop capacity] at mem
  rcases List.mem_append.mp mem with inWindow | behind
  · exact absurd inWindow dropped
  · exact apart kept inside entry behind

theorem Ascending.reading_eq_lotteryStillOpen_iff (nonempty : part ≠ []) :
    reading part deadline = .error .lotteryStillOpen ↔ ∀ entry ∈ part, ¬ deadline < entry.slot := by
  rw [reading, checkpoint_encode_window nonempty,
    ascending.descending_window.pick_eq_lotteryStillOpen_iff]
  constructor
  · intro early entry mem after
    -- What the window has lost is older than what is in it.
    by_cases inside : entry ∈ window part
    · exact early entry inside after
    · have nonempty' : window part ≠ [] := by
        simpa [window, capacity] using nonempty
      obtain ⟨kept, mem'⟩ := List.exists_mem_of_ne_nil _ nonempty'
      exact early kept mem' (UInt64.lt_trans after (ascending.lt_of_dropped mem inside mem'))
  · intro early entry mem
    exact early entry (List.mem_reverse.mp (List.mem_of_mem_take mem))

theorem Ascending.reading_eq_checkpointExpired_iff (nonempty : part ≠ []) :
    reading part deadline = .error .checkpointExpired ↔ Overrun (window part) deadline := by
  rw [reading, checkpoint_encode_window nonempty]
  exact ascending.descending_window.pick_eq_checkpointExpired_iff (length_window_le part)

end Part

/-- One more entry leaves an overrun window overrun. -/
theorem Overrun.concat (ascending : Ascending (part ++ [entry]))
    (overrun : Overrun (window part) deadline) :
    Overrun (window (part ++ [entry])) deadline := by
  obtain ⟨-, -, below⟩ := List.pairwise_append.mp ascending
  rw [window_concat]
  constructor
  · rw [List.length_cons, List.length_take, overrun.full]
    rfl
  · intro other mem
    rcases List.mem_cons.mp mem with rfl | kept
    · -- The new entry is newer than any in the full window.
      have some : window part ≠ [] := by
        intro none
        have full := overrun.full
        rw [none] at full
        cases full
      obtain ⟨older, mem⟩ := List.exists_mem_of_ne_nil _ some
      have far := overrun.beyond older mem
      have newer := below older (List.mem_reverse.mp (List.mem_of_mem_take mem)) other
        List.mem_cons_self
      have newer := UInt64.lt_iff_toNat_lt.mp newer
      omega
    · exact overrun.beyond other (List.mem_of_mem_take kept)

/-- A window that has overrun the deadline stays so. -/
theorem Overrun.append (overrun : Overrun (window part) deadline) (later : List SlotHash)
    (ascending : Ascending (part ++ later)) : Overrun (window (part ++ later)) deadline := by
  induction later using List.reverseRecOn with
  | nil => rwa [List.append_nil]
  | append_singleton later entry ih =>
    rw [← List.append_assoc] at ascending ⊢
    exact Overrun.concat ascending (ih (List.pairwise_append.mp ascending).1)

/-! ### Stages -/

/-- A chain with an entry past the deadline has a first one, and its part has it if the part has any. -/
theorem Ascending.exists_firstAfter (ascending : Ascending chain) (mem : entry ∈ chain)
    (after : deadline < entry.slot) : ∃ sample, FirstAfter chain deadline sample := by
  induction chain with
  | nil => cases mem
  | cons first rest ih =>
    obtain ⟨below, ascending⟩ := List.pairwise_cons.mp ascending
    by_cases past : deadline < first.slot
    · refine ⟨first, List.mem_cons_self, past, ?_⟩
      intro other mem _
      rcases List.mem_cons.mp mem with rfl | later
      · exact UInt64.le_refl _
      · exact UInt64.le_of_lt (below other later)
    · have later : entry ∈ rest := by
        rcases List.mem_cons.mp mem with rfl | later
        · exact absurd after past
        · exact later
      obtain ⟨sample, first⟩ := ih ascending later
      refine ⟨sample, List.mem_cons_of_mem _ first.mem, first.after, ?_⟩
      intro other mem after'
      rcases List.mem_cons.mp mem with rfl | later'
      · exact absurd after' past
      · exact first.least other later' after'

theorem FirstAfter.mem_take (first : FirstAfter chain deadline sample) (ascending : Ascending chain)
    {seen : Nat} (mem : entry ∈ chain.take seen) (after : deadline < entry.slot) :
    sample ∈ chain.take seen := by
  have parts := chain.take_append_drop seen
  have inChain := first.mem
  rw [← parts] at ascending inChain
  obtain ⟨-, -, apart⟩ := List.pairwise_append.mp ascending
  rcases List.mem_append.mp inChain with isSeen | unseen
  · exact isSeen
  · have least := first.least entry (List.mem_of_mem_take mem) after
    exact absurd (apart entry mem sample unseen) (UInt64.not_lt.mpr least)

section Sample

variable {seen : Nat}

/-- The window over the seen part of a chain with a first entry past the deadline, which is among those
seen, has overrun the deadline if it lost that entry, or has it as the oldest of a full window with a gap
before it. -/
theorem FirstAfter.overrun_iff (first : FirstAfter chain deadline sample)
    (ascending : Ascending chain) (mem : sample ∈ chain.take seen) :
    Overrun (window (chain.take seen)) deadline ↔
      sample ∉ window (chain.take seen) ∨
        ((window (chain.take seen)).length = capacity ∧
          (window (chain.take seen)).getLast? = some sample ∧
            deadline.toNat + 1 < sample.slot.toNat) := by
  have ascending : Ascending (chain.take seen) := ascending.sublist (List.take_sublist _ _)
  have inChain : ∀ entry ∈ window (chain.take seen), entry ∈ chain := fun entry mem =>
    List.mem_of_mem_take (List.mem_reverse.mp (List.mem_of_mem_take mem))
  have after := UInt64.lt_iff_toNat_lt.mp first.after
  constructor
  · intro overrun
    by_cases inside : sample ∈ window (chain.take seen)
    · refine .inr ⟨overrun.full, ?_, overrun.beyond sample inside⟩
      -- The oldest entry is past the deadline too, so it cannot be older than the first that is.
      have some := List.ne_nil_of_mem inside
      have last := List.getLast?_eq_some_getLast some
      have oldest := List.getLast_mem some
      have far := overrun.beyond _ oldest
      have least := first.least _ (inChain _ oldest) (UInt64.lt_iff_toNat_lt.mpr (by omega))
      have same := UInt64.le_antisymm least (ascending.descending_window.last_le last inside)
      rw [last, ascending.eq_of_slot_eq mem
        (List.mem_reverse.mp (List.mem_of_mem_take oldest)) same]
    · exact .inl inside
  · rintro (outside | ⟨full, last, gap⟩)
    · refine ⟨length_window_of_dropped mem outside, ?_⟩
      intro entry inside
      have newer := UInt64.lt_iff_toNat_lt.mp (ascending.lt_of_dropped mem outside inside)
      omega
    · refine ⟨full, ?_⟩
      intro entry inside
      have least := UInt64.le_iff_toNat_le.mp (ascending.descending_window.last_le last inside)
      omega

/-- The reading of a seen part that is not too early: the first entry after the deadline, unless the
window has overrun it. -/
theorem FirstAfter.reading_eq_ok_iff (first : FirstAfter chain deadline sample)
    (ascending : Ascending chain) (mem : sample ∈ chain.take seen) :
    reading (chain.take seen) deadline = .ok sample ↔
      ¬ Overrun (window (chain.take seen)) deadline := by
  have part : Ascending (chain.take seen) := ascending.sublist (List.take_sublist _ _)
  have nonempty := List.ne_nil_of_mem mem
  rw [← part.reading_eq_checkpointExpired_iff nonempty]
  constructor
  · intro ok expired
    rw [ok] at expired
    cases expired
  · intro kept
    rcases reading_cases nonempty deadline with early | ⟨found, ok⟩ | expired
    · exact absurd first.after
        ((part.reading_eq_lotteryStillOpen_iff nonempty).mp early sample mem)
    · rw [ok, (firstAfter_of_checkpoint ascending ok).unique first ascending]
    · exact absurd expired kept

end Sample

/-- What the reading says when the first `seen` entries of a chain are there. -/
structure Stage (chain : List SlotHash) (deadline : UInt64) (seen : Nat) : Prop where
  early : (∀ entry ∈ chain.take seen, ¬ deadline < entry.slot) →
    reading (chain.take seen) deadline = .error .lotteryStillOpen
  late : (∃ entry ∈ chain.take seen, deadline < entry.slot) →
    ∃ sample, FirstAfter chain deadline sample ∧
      (reading (chain.take seen) deadline = .ok sample ∨
        reading (chain.take seen) deadline = .error .checkpointExpired)
  ok_of_older : ∀ sample, FirstAfter chain deadline sample → sample ∈ window (chain.take seen) →
    (∃ older ∈ window (chain.take seen), older.slot < sample.slot) →
    reading (chain.take seen) deadline = .ok sample
  ok_of_whole : ∀ sample, FirstAfter chain deadline sample → sample ∈ chain.take seen →
    seen < capacity → reading (chain.take seen) deadline = .ok sample
  ok_of_next : ∀ oldest, (window (chain.take seen)).getLast? = some oldest →
    oldest.slot.toNat = deadline.toNat + 1 →
    FirstAfter chain deadline oldest ∧ reading (chain.take seen) deadline = .ok oldest
  expired_iff : ∀ sample, FirstAfter chain deadline sample → sample ∈ chain.take seen →
    (reading (chain.take seen) deadline = .error .checkpointExpired ↔
      sample ∉ window (chain.take seen) ∨
        ((window (chain.take seen)).length = capacity ∧
          (window (chain.take seen)).getLast? = some sample ∧
            deadline.toNat + 1 < sample.slot.toNat))

theorem stage (ascending : Ascending chain) {seen : Nat} (nonempty : chain.take seen ≠ []) :
    Stage chain deadline seen := by
  have part : Ascending (chain.take seen) := ascending.sublist (List.take_sublist _ _)
  have inPart : ∀ entry ∈ window (chain.take seen), entry ∈ chain.take seen :=
    fun entry mem => List.mem_reverse.mp (List.mem_of_mem_take mem)
  have expired_iff : reading (chain.take seen) deadline = .error .checkpointExpired ↔
      Overrun (window (chain.take seen)) deadline := part.reading_eq_checkpointExpired_iff nonempty
  constructor
  case early => exact (part.reading_eq_lotteryStillOpen_iff nonempty).mpr
  case late =>
    rintro ⟨entry, mem, after⟩
    obtain ⟨sample, first⟩ := ascending.exists_firstAfter (List.mem_of_mem_take mem) after
    have mem := first.mem_take ascending mem after
    refine ⟨sample, first, ?_⟩
    by_cases overrun : Overrun (window (chain.take seen)) deadline
    · exact .inr (expired_iff.mpr overrun)
    · exact .inl ((first.reading_eq_ok_iff ascending mem).mpr overrun)
  case ok_of_older =>
    rintro sample first inside ⟨older, inside', before⟩
    refine (first.reading_eq_ok_iff ascending (inPart _ inside)).mpr fun overrun => ?_
    have far := overrun.beyond older inside'
    have least := first.least older (List.mem_of_mem_take (inPart _ inside'))
      (UInt64.lt_iff_toNat_lt.mpr (by omega))
    exact absurd before (UInt64.not_lt.mpr least)
  case ok_of_whole =>
    intro sample first mem whole
    refine (first.reading_eq_ok_iff ascending mem).mpr fun overrun => ?_
    have full := overrun.full
    rw [window, List.length_take, List.length_reverse, List.length_take] at full
    omega
  case ok_of_next =>
    intro oldest last next
    have inside := List.mem_of_getLast? last
    have after : deadline < oldest.slot := UInt64.lt_iff_toNat_lt.mpr (by omega)
    obtain ⟨sample, first⟩ :=
      ascending.exists_firstAfter (List.mem_of_mem_take (inPart _ inside)) after
    have least := first.least oldest (List.mem_of_mem_take (inPart _ inside)) after
    -- No slot lies between the deadline and the next one.
    have same : sample = oldest := by
      apply ascending.eq_of_slot_eq first.mem (List.mem_of_mem_take (inPart _ inside))
      have after := UInt64.lt_iff_toNat_lt.mp first.after
      have least := UInt64.le_iff_toNat_le.mp least
      exact UInt64.toNat.inj (by omega)
    subst same
    refine ⟨first, (first.reading_eq_ok_iff ascending (inPart _ inside)).mpr fun overrun => ?_⟩
    have far := overrun.beyond sample inside
    omega
  case expired_iff =>
    intro sample first mem
    exact expired_iff.trans (first.overrun_iff ascending mem)

/-- While a chain grows, the reading of a deadline is first too early, then the first entry after the
deadline, and at last expired, and it never goes back. -/
theorem reading_ages (ascending : Ascending chain) (deadline : UInt64) :
    (∀ seen, 0 < seen → seen ≤ chain.length → Stage chain deadline seen) ∧
      ∀ seen later, 0 < seen → seen ≤ later → later ≤ chain.length →
        (reading (chain.take later) deadline = .error .lotteryStillOpen →
            reading (chain.take seen) deadline = .error .lotteryStillOpen) ∧
          (reading (chain.take seen) deadline = .error .checkpointExpired →
            reading (chain.take later) deadline = .error .checkpointExpired) := by
  have nonempty : ∀ seen, 0 < seen → seen ≤ chain.length → chain.take seen ≠ [] := by
    intro seen positive bound
    apply List.ne_nil_of_length_pos
    rw [List.length_take]
    omega
  have part : ∀ seen, Ascending (chain.take seen) := fun seen =>
    ascending.sublist (List.take_sublist _ _)
  refine ⟨fun seen positive bound => stage ascending (nonempty seen positive bound), ?_⟩
  intro seen later positive order bound
  have some := nonempty seen positive (by omega)
  have some' := nonempty later (by omega) bound
  -- What is seen later continues what is seen before.
  obtain ⟨more, grown⟩ : chain.take seen <+: chain.take later :=
    List.take_prefix_take_left order
  constructor
  · rw [(part later).reading_eq_lotteryStillOpen_iff some',
      (part seen).reading_eq_lotteryStillOpen_iff some, ← grown]
    intro early entry mem
    exact early entry (List.mem_append_left _ mem)
  · rw [(part later).reading_eq_checkpointExpired_iff some',
      (part seen).reading_eq_checkpointExpired_iff some]
    intro overrun
    rw [← grown]
    refine overrun.append more ?_
    rw [grown]
    exact part later

/-- A chain of every tenth slot from 0 on. -/
def everyTenth (length : Nat) : List SlotHash :=
  (List.range length).map fun i => ⟨UInt64.ofNat (10 * i), Key.ofNat i⟩

theorem length_everyTenth (length : Nat) : (everyTenth length).length = length := by
  simp [everyTenth]

theorem ascending_everyTenth {length : Nat} (fits : 10 * length ≤ UInt64.size) :
    Ascending (everyTenth length) := by
  rw [Ascending, everyTenth, List.pairwise_map]
  refine List.Pairwise.imp_of_mem ?_ List.pairwise_lt_range
  intro i j mem mem' lt
  have bound := List.mem_range.mp mem
  have bound' := List.mem_range.mp mem'
  rw [UInt64.lt_iff_toNat_lt, UInt64.toNat_ofNat_of_lt' (by omega),
    UInt64.toNat_ofNat_of_lt' (by omega)]
  omega

/-- After the deadline 15, slot 20 is read until it is the oldest of a full window. There it stands, but
slots 16 to 19 could have been lost before it. -/
theorem reading_ages_every_tenth :
    Ascending (everyTenth 600) ∧
      reading ((everyTenth 600).take 2) 15 = .error .lotteryStillOpen ∧
      reading ((everyTenth 600).take 3) 15 = .ok ⟨20, Key.ofNat 2⟩ ∧
      reading ((everyTenth 600).take 513) 15 = .ok ⟨20, Key.ofNat 2⟩ ∧
      (window ((everyTenth 600).take 514)).getLast? = some ⟨20, Key.ofNat 2⟩ ∧
      reading ((everyTenth 600).take 514) 15 = .error .checkpointExpired ∧
      reading ((everyTenth 600).take 600) 15 = .error .checkpointExpired := by
  have ascending : Ascending (everyTenth 600) := ascending_everyTenth (by decide)
  obtain ⟨stages, ages⟩ := reading_ages ascending 15
  have length := length_everyTenth 600
  have first : FirstAfter (everyTenth 600) 15 ⟨20, Key.ofNat 2⟩ :=
    ⟨by decide +kernel, by decide, by decide +kernel⟩
  have oldest : (window ((everyTenth 600).take 514)).getLast? = some ⟨20, Key.ofNat 2⟩ := by
    decide +kernel
  have expired : reading ((everyTenth 600).take 514) 15 = .error .checkpointExpired :=
    ((stages 514 (by omega) (by omega)).expired_iff _ first (by decide +kernel)).mpr
      (.inr ⟨by decide +kernel, oldest, by decide⟩)
  refine ⟨ascending, ?_, ?_, ?_, oldest, expired, ?_⟩
  · exact (stages 2 (by omega) (by omega)).early (by decide +kernel)
  · exact (stages 3 (by omega) (by omega)).ok_of_whole _ first (by decide +kernel) (by decide)
  · exact (stages 513 (by omega) (by omega)).ok_of_older _ first (by decide +kernel)
      ⟨⟨10, Key.ofNat 1⟩, by decide +kernel, by decide⟩
  · exact (ages 514 600 (by omega) (by omega) (by omega)).2 expired

end SlotHistory

end RangeLottery
