import RangeLottery.SlotHistory

/-!
The checkpoint of a deadline in a history that is in order. The binary search finds the same entries as
a scan, and what is found in a window over a growing chain of slots is the first slot of the whole chain
after the deadline, however much of the chain the window has lost.
-/

namespace RangeLottery

namespace SlotHistory

variable {entries newer older : List SlotHash} {deadline : UInt64}

/-! ### Stored form -/

theorem length_flatMap_encode (entries : List SlotHash) :
    (entries.flatMap SlotHash.encode).length = SlotHash.width * entries.length := by
  induction entries with
  | nil => rfl
  | cons first rest ih =>
    rw [List.flatMap_cons, List.length_append, ih, SlotHash.length_encode, List.length_cons,
      Nat.mul_succ, Nat.add_comm]

theorem takeEntries?_flatMap_encode (entries : List SlotHash) (rest : Bytes) :
    takeEntries? entries.length (entries.flatMap SlotHash.encode ++ rest) = some entries := by
  induction entries with
  | nil => rfl
  | cons first others ih =>
    rw [List.flatMap_cons, List.append_assoc, List.length_cons, takeEntries?,
      SlotHash.take?_eq_some_iff.mpr rfl]
    simp [ih]

/-- A stored history reads back, whatever stands behind it. -/
theorem decode?_encode_append (nonempty : entries ≠ []) (fits : span entries.length < UInt64.size)
    (rest : Bytes) : decode? (encode entries ++ rest) = some entries := by
  have positive : 0 < entries.length := List.length_pos_iff.mpr nonempty
  have small : entries.length < UInt64.size := by
    unfold span SlotHash.width at fits
    omega
  have count : (UInt64.ofNat entries.length).toNat = entries.length := by
    rw [UInt64.toNat_ofNat', Nat.mod_eq_of_lt small]
  have nonzero : UInt64.ofNat entries.length ≠ 0 := by
    intro zero
    rw [zero] at count
    exact absurd count.symm (Nat.ne_of_gt positive)
  have length : ¬ (encode entries ++ rest).length < span entries.length := by
    simp only [encode, List.length_append, Bytes.length_ofWord, length_flatMap_encode, span]
    omega
  unfold decode?
  rw [encode, List.append_assoc, Bytes.takeWord?_append]
  rw [encode, List.append_assoc] at length
  simp only [Option.bind_eq_bind, Option.bind_some, count]
  rw [if_neg (by simp only [nonzero, false_or, not_or]; omega)]
  exact takeEntries?_flatMap_encode entries rest

theorem decode?_encode (nonempty : entries ≠ []) (fits : span entries.length < UInt64.size) :
    decode? (encode entries) = some entries := by
  have read := decode?_encode_append nonempty fits []
  rwa [List.append_nil] at read

/-! ### Search -/

/-- The search finds where the predicate starts to fail. -/
theorem search_eq {past : Nat → Bool} {lo hi cut : Nat} (low : lo ≤ cut) (high : cut ≤ hi)
    (holds : ∀ position, position < cut → past position = true)
    (fails : ∀ position, cut ≤ position → past position = false) :
    search past lo hi = cut := by
  fun_induction search past lo hi with
  | case1 lo hi active mid isPast ih =>
    refine ih ?_ high
    rcases Nat.lt_or_ge mid cut with before | behind
    · exact before
    · rw [fails mid behind] at isPast
      cases isPast
  | case2 lo hi active mid notPast ih =>
    refine ih low ?_
    rcases Nat.lt_or_ge mid cut with before | behind
    · exact absurd (holds mid before) notPast
    · exact behind
  | case3 lo hi inactive => omega

/-- The entries past the deadline are found where they stand in front of the others. -/
theorem newerThan_append (past : ∀ entry ∈ newer, deadline < entry.slot)
    (notPast : ∀ entry ∈ older, ¬ deadline < entry.slot) :
    newerThan (newer ++ older) deadline = newer := by
  have found : search (isPast (newer ++ older) deadline) 0 (newer ++ older).length =
      newer.length := by
    refine search_eq (Nat.zero_le _) (by simp) ?_ ?_
    · intro position before
      unfold isPast
      rw [List.getElem?_append_left before, List.getElem?_eq_getElem before]
      simp [past _ (List.getElem_mem before)]
    · intro position behind
      unfold isPast
      rw [List.getElem?_append_right behind]
      cases read : older[position - newer.length]? with
      | none => rfl
      | some entry => simp [notPast entry (List.mem_of_getElem? read)]
  unfold newerThan
  rw [found, List.take_left]

/-- The slots descend from each entry to the next. -/
def Descending (entries : List SlotHash) : Prop :=
  entries.Pairwise fun newer older => older.slot < newer.slot

/-- The entries of a descending history that are past a deadline stand in front of the others. -/
theorem Descending.eq_append (descending : Descending entries) (deadline : UInt64) :
    ∃ newer older, entries = newer ++ older ∧ (∀ entry ∈ newer, deadline < entry.slot) ∧
      ∀ entry ∈ older, ¬ deadline < entry.slot := by
  induction entries with
  | nil => exact ⟨[], [], rfl, by simp, by simp⟩
  | cons first rest ih =>
    obtain ⟨below, descending⟩ := List.pairwise_cons.mp descending
    by_cases past : deadline < first.slot
    · obtain ⟨newer, older, rfl, allPast, nonePast⟩ := ih descending
      refine ⟨first :: newer, older, rfl, ?_, nonePast⟩
      intro entry mem
      rcases List.mem_cons.mp mem with rfl | later
      · exact past
      · exact allPast entry later
    · refine ⟨[], first :: rest, rfl, by simp, ?_⟩
      intro entry mem
      rcases List.mem_cons.mp mem with rfl | later
      · exact past
      · exact fun past' => past (UInt64.lt_trans past' (below entry later))

/-- What is picked from entries of which `newer` are past the deadline. -/
theorem pick_append (past : ∀ entry ∈ newer, deadline < entry.slot)
    (notPast : ∀ entry ∈ older, ¬ deadline < entry.slot) {sample : SlotHash} :
    pick (newer ++ older) deadline = .ok sample ↔
      newer.getLast? = some sample ∧
        (older = [] → capacity ≤ newer.length →
          sample.slot = Amount.succSaturating deadline) := by
  simp only [pick, newerThan_append past notPast, List.length_append]
  cases newer.getLast? with
  | none => simp
  | some oldest =>
    simp only [Option.some.injEq]
    split
    · rename_i expired
      obtain ⟨all, full, skipped⟩ := expired
      have none : older = [] := List.length_eq_zero_iff.mp (by omega)
      simp only [reduceCtorEq, false_iff, not_and]
      rintro rfl kept
      rw [none, List.length_nil, Nat.add_zero] at full
      exact skipped (kept none full)
    · rename_i kept
      simp only [Except.ok.injEq]
      constructor
      · rintro rfl
        refine ⟨rfl, fun none full => ?_⟩
        by_cases next : oldest.slot = Amount.succSaturating deadline
        · exact next
        · rw [none, List.length_nil, Nat.add_zero] at kept
          exact absurd ⟨rfl, full, next⟩ kept
      · rintro ⟨rfl, -⟩
        rfl

/-! ### A window over a chain -/

/-- The slots ascend, as in a chain that only grows and is listed oldest first. -/
def Ascending (chain : List SlotHash) : Prop :=
  chain.Pairwise fun older newer => older.slot < newer.slot

/-- What a history keeps of a chain: the newest entries, newest first. -/
def window (chain : List SlotHash) : List SlotHash :=
  chain.reverse.take capacity

/-- The sample is the first entry of the chain after the deadline. -/
structure FirstAfter (chain : List SlotHash) (deadline : UInt64) (sample : SlotHash) : Prop where
  mem : sample ∈ chain
  after : deadline < sample.slot
  least : ∀ other ∈ chain, deadline < other.slot → sample.slot ≤ other.slot

section Window

variable {chain : List SlotHash} {sample : SlotHash}

/-- A chain has one entry for each of its slots. -/
theorem Ascending.eq_of_slot_eq (ascending : Ascending chain) {a b : SlotHash} (mem : a ∈ chain)
    (mem' : b ∈ chain) (same : a.slot = b.slot) : a = b := by
  induction chain with
  | nil => cases mem
  | cons first rest ih =>
    obtain ⟨below, ascending⟩ := List.pairwise_cons.mp ascending
    rcases List.mem_cons.mp mem with rfl | later
    · rcases List.mem_cons.mp mem' with rfl | later'
      · rfl
      · have before := below b later'
        rw [same] at before
        exact absurd before (UInt64.lt_irrefl _)
    · rcases List.mem_cons.mp mem' with rfl | later'
      · have before := below a later
        rw [same] at before
        exact absurd before (UInt64.lt_irrefl _)
      · exact ih ascending later later'

theorem FirstAfter.unique {sample' : SlotHash} (first : FirstAfter chain deadline sample)
    (first' : FirstAfter chain deadline sample') (ascending : Ascending chain) :
    sample = sample' :=
  ascending.eq_of_slot_eq first.mem first'.mem
    (UInt64.le_antisymm (first.least _ first'.mem first'.after)
      (first'.least _ first.mem first.after))

theorem succSaturating_le (a : UInt64) : (Amount.succSaturating a).toNat ≤ a.toNat + 1 := by
  unfold Amount.succSaturating
  cases next : Amount.add? a 1 with
  | none => exact Nat.le_succ _
  | some sum => exact Nat.le_of_eq (Amount.add?_eq_some_iff.mp next).symm

/-- Of entries that descend, the last has the least slot. -/
theorem Descending.last_le (descending : Descending entries) {last : SlotHash}
    (found : entries.getLast? = some last) {entry : SlotHash} (mem : entry ∈ entries) :
    last.slot ≤ entry.slot := by
  obtain ⟨before, rfl⟩ := List.getLast?_eq_some_iff.mp found
  rcases List.mem_append.mp mem with earlier | here
  · obtain ⟨-, -, below⟩ := List.pairwise_append.mp descending
    exact UInt64.le_of_lt (below entry earlier last List.mem_cons_self)
  · rw [List.mem_singleton.mp here]
    exact UInt64.le_refl _

/-- What is picked from a window over a part of the chain is the first entry of the whole chain after
the deadline, or nothing is. -/
theorem firstAfter_of_pick (ascending : Ascending chain) {seen : Nat}
    (picked : pick (window (chain.take seen)) deadline = .ok sample) :
    FirstAfter chain deadline sample := by
  have parts := chain.take_append_drop seen
  rw [← parts] at ascending
  obtain ⟨ascending, -, unseen⟩ := List.pairwise_append.mp ascending
  -- What is seen of the chain, newest first, is the window and what the window has dropped.
  have split := (chain.take seen).reverse.take_append_drop capacity
  have descending : Descending (chain.take seen).reverse := List.pairwise_reverse.mpr ascending
  rw [← split] at descending
  obtain ⟨descending, -, dropped⟩ := List.pairwise_append.mp descending
  obtain ⟨newer, older, kept, past, notPast⟩ := Descending.eq_append descending deadline
  unfold window at picked
  rw [kept] at picked descending
  obtain ⟨last, full⟩ := (pick_append past notPast).mp picked
  have inNewer := List.mem_of_getLast? last
  have inWindow : sample ∈ (chain.take seen).reverse.take capacity := by
    rw [kept]
    exact List.mem_append_left _ inNewer
  have inSeen : sample ∈ chain.take seen := List.mem_reverse.mp (List.mem_of_mem_take inWindow)
  refine ⟨List.mem_of_mem_take inSeen, past sample inNewer, ?_⟩
  intro other mem after
  rw [← parts] at mem
  rcases List.mem_append.mp mem with isSeen | isUnseen
  · rw [← List.mem_reverse, ← split] at isSeen
    rcases List.mem_append.mp isSeen with inside | outside
    · rw [kept] at inside
      rcases List.mem_append.mp inside with isNewer | isOlder
      · exact Descending.last_le (List.pairwise_append.mp descending).1 last isNewer
      · exact absurd after (notPast other isOlder)
    · -- The window lost an entry past the deadline: it is full and all of it is past the deadline.
      have noneOlder : older = [] := by
        refine List.eq_nil_iff_forall_not_mem.mpr fun entry isOlder => notPast entry isOlder ?_
        refine UInt64.lt_trans after (dropped entry ?_ other outside)
        rw [kept]
        exact List.mem_append_right _ isOlder
      have isFull : capacity ≤ newer.length := by
        have some := List.length_pos_of_mem outside
        have length := congrArg List.length kept
        rw [noneOlder, List.append_nil, List.length_take] at length
        rw [List.length_drop] at some
        omega
      have next := full noneOlder isFull
      have before := UInt64.lt_iff_toNat_lt.mp (dropped sample inWindow other outside)
      have after := UInt64.lt_iff_toNat_lt.mp after
      have step := succSaturating_le deadline
      rw [next] at before
      omega
  · exact UInt64.le_of_lt (unseen sample inSeen other isUnseen)

theorem length_window_le (chain : List SlotHash) : (window chain).length ≤ capacity :=
  List.length_take_le _ _

theorem checkpoint_encode_window (nonempty : chain ≠ []) :
    checkpoint (encode (window chain)) deadline = pick (window chain) deadline := by
  have few := length_window_le chain
  have fits : span (window chain).length < UInt64.size := by
    unfold span SlotHash.width UInt64.size
    unfold capacity at few
    omega
  have some : window chain ≠ [] := by
    simpa [window, capacity] using nonempty
  rw [checkpoint, decode?_encode some fits]

/-- The checkpoint in the stored window over a part of the chain. -/
theorem firstAfter_of_checkpoint (ascending : Ascending chain) {seen : Nat}
    (found : checkpoint (encode (window (chain.take seen))) deadline = .ok sample) :
    FirstAfter chain deadline sample := by
  by_cases nonempty : chain.take seen = []
  · rw [nonempty] at found
    cases found
  · rw [checkpoint_encode_window nonempty] at found
    exact firstAfter_of_pick ascending found

end Window

end SlotHistory

end RangeLottery
