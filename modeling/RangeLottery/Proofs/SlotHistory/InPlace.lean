import RangeLottery.Proofs.SlotHistory.Boundary

/-!
The checkpoint as a machine finds it: the entries are not read out one after another, but each entry that the
search looks at is read where it is stored, and positions and offsets are numbers of 64 bits. An operation
here gives nothing when a number would pass 64 bits or fall below zero, when an entry is not inside the bytes,
or when the search has not ended in a round for each bit. Main statement: on any bytes none of this happens,
and what comes of it is the checkpoint; a history is refused as malformed exactly when the bytes cannot hold
it, and a checkpoint always lies past the deadline.
-/

namespace RangeLottery

namespace Amount

variable {a b : UInt64} {n : Nat}

theorem exists_ofNat? (fits : n < UInt64.size) : ∃ c, ofNat? n = some c ∧ c.toNat = n :=
  ⟨UInt64.ofNat n, if_pos fits, UInt64.toNat_ofNat_of_lt' fits⟩

theorem exists_add? (fits : a.toNat + b.toNat < UInt64.size) :
    ∃ c, add? a b = some c ∧ c.toNat = a.toNat + b.toNat :=
  exists_ofNat? fits

theorem exists_sub? (ordered : b.toNat ≤ a.toNat) :
    ∃ c, sub? a b = some c ∧ c.toNat = a.toNat - b.toNat := by
  have ordered' := UInt64.le_iff_toNat_le.mpr ordered
  exact ⟨a - b, if_pos ordered', UInt64.toNat_sub_of_le a b ordered'⟩

end Amount

namespace SlotHistory

variable {bytes rest : Bytes} {entries : List SlotHash} {deadline : UInt64} {sample : SlotHash}

/-! ### In place -/

/-- The length of a stored history of `count` entries, as a 64-bit number. -/
def wordSpan? (count : UInt64) : Option UInt64 := do
  let length ← Amount.ofNat? (count.toNat * SlotHash.width)
  Amount.add? length 8

/-- The entry at `position`, read between two 64-bit offsets. -/
def entryInPlace? (bytes : Bytes) (position : UInt64) : Option SlotHash := do
  let start ← wordSpan? position
  let stop ← Amount.add? start (UInt64.ofNat SlotHash.width)
  if stop.toNat ≤ bytes.length then (SlotHash.take? (bytes.drop start.toNat)).map Prod.fst
  else none

/-- The entry in front of `position`. -/
def entryBefore? (bytes : Bytes) (position : UInt64) : Option SlotHash := do
  let before ← Amount.sub? position 1
  entryInPlace? bytes before

/-- The search from `lo` to `hi`, in at most so many rounds. -/
def searchInPlace? (bytes : Bytes) (deadline : UInt64) : Nat → UInt64 → UInt64 → Option UInt64
  | 0, lo, hi => if lo < hi then none else some lo
  | rounds + 1, lo, hi =>
    if lo < hi then do
      let gap ← Amount.sub? hi lo
      let mid ← Amount.add? lo (gap / 2)
      let entry ← entryInPlace? bytes mid
      if deadline < entry.slot then do
        let behind ← Amount.add? mid 1
        searchInPlace? bytes deadline rounds behind hi
      else searchInPlace? bytes deadline rounds lo mid
    else some lo

/-- Whether all of a full history is past the deadline and its oldest entry is not in the next slot, when
`newer` of its `count` entries are past the deadline. The oldest entry is only read where it matters. -/
def expiredInPlace? (bytes : Bytes) (deadline count newer : UInt64) : Option Bool :=
  if newer = count ∧ capacity ≤ count.toNat then
    (entryBefore? bytes count).map fun oldest => oldest.slot ≠ Amount.succSaturating deadline
  else some false

/-- What is picked of `count` stored entries, in a round for each bit of a position. -/
def pickInPlace? (bytes : Bytes) (deadline count : UInt64) : Option (Except Refusal SlotHash) := do
  let newer ← searchInPlace? bytes deadline 64 0 count
  if newer = 0 then return .error .lotteryStillOpen
  if ← expiredInPlace? bytes deadline count newer then return .error .checkpointExpired
  let sample ← entryBefore? bytes newer
  return .ok sample

/-- The checkpoint of `deadline`, found in place. -/
def checkpointInPlace? (bytes : Bytes) (deadline : UInt64) : Option (Except Refusal SlotHash) :=
  match Bytes.takeWord? bytes with
  | none => some (.error .malformedPayload)
  | some (count, _) =>
    match wordSpan? count with
    | none => some (.error .malformedPayload)
    | some length =>
      if count = 0 ∨ bytes.length < length.toNat then some (.error .malformedPayload)
      else pickInPlace? bytes deadline count

/-! ### Inside the bytes -/

theorem wordSpan?_eq (count : UInt64) : wordSpan? count = Amount.ofNat? (span count.toNat) := by
  have offset : (8 : UInt64).toNat = 8 := rfl
  unfold wordSpan? span
  cases product : Amount.ofNat? (count.toNat * SlotHash.width) with
  | none =>
    have wide := Amount.ofNat?_eq_none_iff.mp product
    rw [Nat.mul_comm] at wide
    exact (Amount.ofNat?_eq_none_iff.mpr (Nat.le_trans wide (Nat.le_add_left _ _))).symm
  | some length =>
    have exact := Amount.ofNat?_eq_some_iff.mp product
    simp only [Option.bind_eq_bind, Option.bind_some, Amount.add?, offset, ← exact]
    rw [Nat.mul_comm, Nat.add_comm]

section Stored

variable (fits : span entries.length < UInt64.size)

include fits

/-- An entry of a stored history is read inside the bytes. -/
theorem entryInPlace?_encode_append {position : UInt64} (inside : position.toNat < entries.length) :
    entryInPlace? (encode entries ++ rest) position = some entries[position.toNat] := by
  have length : (encode entries ++ rest).length = span entries.length + rest.length := by
    rw [List.length_append, length_encode]
  have next : span position.toNat + SlotHash.width ≤ span entries.length := by
    unfold span SlotHash.width
    omega
  obtain ⟨start, start_eq, start_toNat⟩ :=
    Amount.exists_ofNat? (Nat.lt_of_le_of_lt (Nat.le_of_add_right_le next) fits)
  rw [← start_toNat] at next
  obtain ⟨stop, stop_eq, stop_toNat⟩ := Amount.exists_add? (b := UInt64.ofNat SlotHash.width)
    (Nat.lt_of_le_of_lt next fits)
  have within : stop.toNat ≤ (encode entries ++ rest).length := by
    rw [stop_toNat, length]
    exact Nat.le_trans next (Nat.le_add_right _ _)
  simp only [entryInPlace?, wordSpan?_eq, start_eq, stop_eq, Option.bind_eq_bind, Option.bind_some,
    if_pos within, start_toNat]
  exact entryAt?_encode_append inside rest

theorem entryBefore?_encode_append {position : UInt64} (positive : 0 < position.toNat)
    (inside : position.toNat ≤ entries.length) :
    entryBefore? (encode entries ++ rest) position = entries[position.toNat - 1]? := by
  obtain ⟨before, before_eq, before_toNat⟩ := Amount.exists_sub? (b := 1) positive
  have before_toNat : before.toNat = position.toNat - 1 := before_toNat
  have inside' : before.toNat < entries.length := by omega
  rw [entryBefore?, before_eq, ← before_toNat, List.getElem?_eq_getElem inside']
  exact entryInPlace?_encode_append fits inside'

/-- The search among the stored entries ends, looks at no other entries and comes to the position that the
search over all of them comes to. Each round halves the gap, so as many rounds are enough as the gap has
bits. -/
theorem searchInPlace?_encode_append {rounds : Nat} {lo hi : UInt64}
    (within : hi.toNat ≤ entries.length) (enough : hi.toNat - lo.toNat < Nat.pow 2 rounds) :
    ∃ cut, searchInPlace? (encode entries ++ rest) deadline rounds lo hi = some cut ∧
      cut.toNat = search (isPast entries deadline) lo.toNat hi.toNat := by
  induction rounds generalizing lo hi with
  | zero =>
    have one : Nat.pow 2 0 = 1 := rfl
    have inactive : ¬ lo.toNat < hi.toNat := by omega
    refine ⟨lo, ?_, ?_⟩
    · rw [searchInPlace?, if_neg (mt UInt64.lt_iff_toNat_lt.mp inactive)]
    · rw [search, if_neg inactive]
  | succ rounds ih =>
    have double : Nat.pow 2 (rounds + 1) = Nat.pow 2 rounds * 2 := rfl
    unfold searchInPlace? search
    by_cases active : lo < hi
    · rw [if_pos active, if_pos (UInt64.lt_iff_toNat_lt.mp active)]
      have active := UInt64.lt_iff_toNat_lt.mp active
      have bound := hi.toNat_lt_size
      obtain ⟨gap, gap_eq, gap_toNat⟩ := Amount.exists_sub? (Nat.le_of_lt active)
      have half : (gap / 2).toNat = gap.toNat / 2 := UInt64.toNat_div gap 2
      obtain ⟨mid, mid_eq, mid_toNat⟩ := Amount.exists_add? (a := lo) (b := gap / 2) (by omega)
      rw [half, gap_toNat] at mid_toNat
      have inside : mid.toNat < entries.length := by omega
      obtain ⟨behind, behind_eq, behind_toNat⟩ := Amount.exists_add? (a := mid) (b := 1)
        (Nat.lt_of_le_of_lt (by omega : mid.toNat + 1 ≤ hi.toNat) bound)
      have behind_toNat : behind.toNat = mid.toNat + 1 := behind_toNat
      simp only [gap_eq, mid_eq, entryInPlace?_encode_append fits inside, behind_eq,
        Option.bind_eq_bind, Option.bind_some, ← mid_toNat]
      -- The entry looked at is the one that the search asks for, and either half is less than half the gap.
      have asked : isPast entries deadline mid.toNat = true ↔ deadline < entries[mid.toNat].slot := by
        rw [isPast, List.getElem?_eq_getElem inside, Option.any_some, decide_eq_true_iff]
      simp only [asked]
      split
      · rw [← behind_toNat]
        exact ih within (by omega)
      · exact ih (Nat.le_of_lt inside) (by omega)
    · rw [if_neg active, if_neg (mt UInt64.lt_iff_toNat_lt.mpr active)]
      exact ⟨lo, rfl, rfl⟩

theorem expiredInPlace?_encode_append {count newer : UInt64} (length : count.toNat = entries.length)
    (positive : 0 < newer.toNat) (stored : entries[newer.toNat - 1]? = some sample) :
    expiredInPlace? (encode entries ++ rest) deadline count newer =
      some (decide (newer.toNat = entries.length ∧ capacity ≤ entries.length
        ∧ sample.slot ≠ Amount.succSaturating deadline)) := by
  have all : newer = count ↔ newer.toNat = entries.length := by
    rw [← UInt64.toNat_inj, length]
  simp only [expiredInPlace?, all, length]
  split
  · rename_i whole
    obtain rfl := all.mpr whole.1
    rw [entryBefore?_encode_append fits positive (Nat.le_of_eq length), stored, Option.map_some]
    simp [whole]
  · rename_i part
    simp only [← and_assoc, part, false_and, decide_false]

/-- What is picked in place is what is picked of the entries. -/
theorem pickInPlace?_encode_append {count : UInt64} (length : count.toNat = entries.length) :
    pickInPlace? (encode entries ++ rest) deadline count = some (pick entries deadline) := by
  obtain ⟨newer, newer_eq, newer_toNat⟩ :
      ∃ newer, searchInPlace? (encode entries ++ rest) deadline 64 0 count = some newer ∧
        newer.toNat = search (isPast entries deadline) (0 : UInt64).toNat count.toNat :=
    searchInPlace?_encode_append fits (Nat.le_of_eq length) count.toNat_lt
  rw [length] at newer_toNat
  have found : search (isPast entries deadline) 0 entries.length = newer.toNat := newer_toNat.symm
  simp only [pickInPlace?, newer_eq, Option.bind_eq_bind, Option.bind_some]
  split
  · rename_i none
    rw [pick_of_search_eq_zero (found.trans (congrArg UInt64.toNat none))]
    rfl
  · rename_i some
    have positive : 0 < newer.toNat := Amount.toNat_pos_iff.mpr some
    obtain ⟨-, within⟩ := search_bounds (isPast entries deadline) 0 entries.length (Nat.zero_le _)
    rw [found] at within
    have inside : newer.toNat - 1 < entries.length := by omega
    have next : newer.toNat = newer.toNat - 1 + 1 := (Nat.sub_add_cancel positive).symm
    have stored := List.getElem?_eq_getElem inside
    rw [expiredInPlace?_encode_append fits length positive stored,
      entryBefore?_encode_append fits positive within, stored,
      pick_of_search_eq_succ (found.trans next) stored, ← next]
    simp only [Option.bind_some, decide_eq_true_eq]
    split <;> rfl

end Stored

theorem checkpointInPlace?_eq (bytes : Bytes) (deadline : UInt64) :
    checkpointInPlace? bytes deadline = some (checkpoint bytes deadline) := by
  unfold checkpointInPlace? checkpoint
  cases read : decode? bytes with
  | none =>
    split
    · rfl
    · rename_i count behind counted
      split
      · rfl
      · rename_i length length_eq
        split
        · rfl
        · rename_i held
          have malformed := decode?_eq_none_iff.mp read
          obtain rfl := Bytes.takeWord?_eq_some_iff.mp counted
          rw [wordSpan?_eq, Amount.ofNat?_eq_some_iff] at length_eq
          rw [malformed_ofWord_append_iff, length_eq] at malformed
          rcases malformed with none | wide | short
          · exact absurd (.inl none) held
          · exact absurd length.toNat_lt_size (Nat.not_lt.mpr wide)
          · exact absurd (.inr short) held
  | some entries =>
    obtain ⟨nonempty, fits, rest, rfl⟩ := decode?_eq_some_iff.mp read
    have small : entries.length < UInt64.size := by
      unfold span SlotHash.width at fits
      omega
    have count : (UInt64.ofNat entries.length).toNat = entries.length :=
      UInt64.toNat_ofNat_of_lt' small
    have counted : Bytes.takeWord? (encode entries ++ rest) =
        some (UInt64.ofNat entries.length, entries.flatMap SlotHash.encode ++ rest) := by
      rw [encode, List.append_assoc, Bytes.takeWord?_append]
    obtain ⟨length, length_eq, length_toNat⟩ := Amount.exists_ofNat? fits
    have held : ¬ (UInt64.ofNat entries.length = 0
        ∨ (encode entries ++ rest).length < length.toNat) := by
      have positive : UInt64.toNat 0 < entries.length := List.length_pos_iff.mpr nonempty
      rw [← UInt64.toNat_inj, count, length_toNat, List.length_append, length_encode]
      omega
    simp only [counted, wordSpan?_eq, count, length_eq, if_neg held]
    exact pickInPlace?_encode_append fits count

/-! ### Any bytes -/

/-- The sample is stored at one of the positions that the bytes announce, and lies past the deadline. The next
entry is not past the deadline; or there is none, and the history is not full or the sample is in the very
next slot. -/
structure CheckpointAt (bytes : Bytes) (deadline : UInt64) (sample : SlotHash) (position : Nat) :
    Prop where
  announced : position < bytes.wordAt 0
  stored : entryAt? bytes position = some sample
  past : deadline < sample.slot
  ends : (position + 1 < bytes.wordAt 0 ∧
      ∃ next, entryAt? bytes (position + 1) = some next ∧ next.slot ≤ deadline) ∨
    (position + 1 = bytes.wordAt 0 ∧
      (bytes.wordAt 0 < 512 ∨ sample.slot.toNat = deadline.toNat + 1))

theorem checkpoint_eq_malformedPayload_iff :
    checkpoint bytes deadline = .error .malformedPayload ↔ Malformed bytes := by
  rw [← decode?_eq_none_iff, checkpoint]
  cases decode? bytes with
  | none => simp
  | some entries =>
    simp only [pick, reduceCtorEq, iff_false]
    cases (newerThan entries deadline).getLast? with
    | none => simp
    | some oldest =>
      dsimp only
      split <;> simp

theorem exists_checkpointAt (found : checkpoint bytes deadline = .ok sample) :
    ∃ position, CheckpointAt bytes deadline sample position := by
  unfold checkpoint at found
  cases read : decode? bytes with
  | none =>
    rw [read] at found
    cases found
  | some entries =>
    rw [read] at found
    obtain ⟨-, fits, rest, rfl⟩ := decode?_eq_some_iff.mp read
    obtain ⟨position, stored, past, ends⟩ := exists_endsPast found
    obtain ⟨inside, rfl⟩ := List.getElem?_eq_some_iff.mp stored
    refine ⟨position, ?_, entryAt?_encode_append inside rest, past, ?_⟩
    · rwa [wordAt_encode_append fits]
    · rw [wordAt_encode_append fits]
      rcases ends with ⟨next, behind, notPast⟩ | last
      · obtain ⟨inside', rfl⟩ := List.getElem?_eq_some_iff.mp behind
        exact .inl ⟨inside', _, entryAt?_encode_append inside' rest, notPast⟩
      · exact .inr last

/-- On any bytes the checkpoint is found inside them and in 64-bit numbers, a history is malformed if and only
if the bytes cannot hold it, and a checkpoint is an entry past the deadline with which such entries end. -/
theorem checkpoint_safe_on_any_bytes (bytes : Bytes) (deadline : UInt64) :
    checkpointInPlace? bytes deadline = some (checkpoint bytes deadline) ∧
      (checkpoint bytes deadline = .error .malformedPayload ↔ Malformed bytes) ∧
        ∀ sample, checkpoint bytes deadline = .ok sample →
          ∃ position, CheckpointAt bytes deadline sample position :=
  ⟨checkpointInPlace?_eq bytes deadline, checkpoint_eq_malformedPayload_iff,
    fun _ => exists_checkpointAt⟩

/-- Five entries that are out of order, one of them twice. -/
def shuffled : List SlotHash :=
  [⟨7, .ofNat 1⟩, ⟨20, .ofNat 2⟩, ⟨3, .ofNat 3⟩, ⟨20, .ofNat 2⟩, ⟨11, .ofNat 4⟩]

/-- Among the shuffled entries the search ends in the middle, and the least slot past the deadline, which
stands last, is not found. A number of entries that would pass 64 bits is refused. -/
theorem checkpoint_safe_on_shuffled :
    checkpoint (encode shuffled ++ [1, 2]) 10 = .ok ⟨20, .ofNat 2⟩ ∧
      (∃ position, CheckpointAt (encode shuffled ++ [1, 2]) 10 ⟨20, .ofNat 2⟩ position) ∧
        checkpoint (Bytes.ofWord 461168601842738791) 10 = .error .malformedPayload := by
  obtain ⟨safe, -, found⟩ := checkpoint_safe_on_any_bytes (encode shuffled ++ [1, 2]) 10
  obtain ⟨-, malformed, -⟩ := checkpoint_safe_on_any_bytes (Bytes.ofWord 461168601842738791) 10
  have inPlace : checkpointInPlace? (encode shuffled ++ [1, 2]) 10 = some (.ok ⟨20, .ofNat 2⟩) := by
    decide +kernel
  have ok := Option.some.inj (safe.symm.trans inPlace)
  exact ⟨ok, found _ ok, malformed.mpr (by unfold Malformed; decide +kernel)⟩

end SlotHistory

end RangeLottery
