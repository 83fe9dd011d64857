import RangeLottery.Proofs.Record.Codec
import RangeLottery.Proofs.SlotHistory.Ageing

/-!
What the search finds on bytes of which nothing is known. A stored history may hold its entries in any order
and more than once, or may not hold the entries that it announces. The search only ever keeps to one rule:
the entry in front of its position is past the deadline, if there is one, and the entry at its position is
not, if there is one. So what is picked lies past the deadline, and the entries past the deadline end with
it, be the others where they may.
-/

namespace RangeLottery

theorem SlotHash.exists_eq_encode_append {bytes : Bytes} {behind : Nat}
    (length : bytes.length = width + behind) :
    ∃ (entry : SlotHash) (rest : Bytes), bytes = entry.encode ++ rest ∧ rest.length = behind := by
  have length : bytes.length = 8 + (32 + behind) := by
    rw [length, width]
    omega
  obtain ⟨slot, rest, rfl, length⟩ := Bytes.exists_eq_ofWord_append length
  rw [List.length_append, Bytes.length_ofWord, Nat.add_left_cancel_iff] at length
  obtain ⟨hash, rest, rfl, length⟩ := Key.exists_eq_bytes_append length
  rw [List.length_append, hash.length_eq, Nat.add_left_cancel_iff] at length
  exact ⟨⟨slot, hash⟩, rest, by simp [encode], length⟩

namespace SlotHistory

variable {bytes : Bytes} {entries : List SlotHash} {deadline : UInt64} {sample : SlotHash}
  {position : Nat}

/-! ### Stored form -/

/-- The entry stored at a position. -/
def entryAt? (bytes : Bytes) (position : Nat) : Option SlotHash :=
  (SlotHash.take? (bytes.drop (span position))).map Prod.fst

/-- The bytes do not hold a history: they are too short for the number of entries or for as many entries as
that number says, or it is zero, or no 64-bit machine can address so many. -/
def Malformed (bytes : Bytes) : Prop :=
  bytes.length < 8 ∨ bytes.wordAt 0 = 0 ∨ UInt64.size ≤ 8 + 40 * bytes.wordAt 0 ∨
    bytes.length < 8 + 40 * bytes.wordAt 0

/-- Enough bytes are the written form of some entries, and what stands behind them. -/
theorem exists_eq_flatMap_encode (count : Nat) (bytes : Bytes)
    (enough : SlotHash.width * count ≤ bytes.length) :
    ∃ (entries : List SlotHash) (rest : Bytes),
      bytes = entries.flatMap SlotHash.encode ++ rest ∧ entries.length = count := by
  induction count generalizing bytes with
  | zero => exact ⟨[], bytes, rfl, rfl⟩
  | succ count ih =>
    rw [Nat.mul_succ] at enough
    obtain ⟨entry, behind, rfl, length⟩ := SlotHash.exists_eq_encode_append
      (Nat.add_sub_cancel' (Nat.le_trans (Nat.le_add_left _ _) enough)).symm
    obtain ⟨entries, rest, rfl, rfl⟩ := ih behind (by omega)
    exact ⟨entry :: entries, rest, by simp, rfl⟩

theorem length_encode (entries : List SlotHash) : (encode entries).length = span entries.length := by
  rw [encode, List.length_append, Bytes.length_ofWord, length_flatMap_encode, span]

theorem decode?_ofWord_append (count : UInt64) (behind : Bytes) :
    decode? (Bytes.ofWord count ++ behind) =
      if count = 0 ∨ UInt64.size ≤ span count.toNat ∨
          (Bytes.ofWord count ++ behind).length < span count.toNat then none
      else takeEntries? count.toNat behind := by
  simp [decode?]

theorem malformed_ofWord_append_iff (count : UInt64) (behind : Bytes) :
    Malformed (Bytes.ofWord count ++ behind) ↔
      count = 0 ∨ UInt64.size ≤ span count.toNat ∨
        (Bytes.ofWord count ++ behind).length < span count.toNat := by
  have announced : (Bytes.ofWord count ++ behind).wordAt 0 = count.toNat :=
    Bytes.wordAt_append [] behind count 0 rfl
  have none : count = 0 ↔ count.toNat = 0 := UInt64.toNat_inj.symm
  rw [Malformed, announced, none, span, SlotHash.width, List.length_append,
    Bytes.length_ofWord]
  omega

/-- Bytes that are not malformed are the written form of some entries, and what stands behind them. -/
theorem exists_eq_encode_of_not_malformed (held : ¬ Malformed bytes) :
    ∃ (entries : List SlotHash) (rest : Bytes), entries ≠ [] ∧
      span entries.length < UInt64.size ∧ bytes = encode entries ++ rest := by
  have counted : 8 ≤ bytes.length := Nat.not_lt.mp fun short => held (.inl short)
  obtain ⟨count, behind, rfl, -⟩ := Bytes.exists_eq_ofWord_append (Nat.add_sub_cancel' counted).symm
  simp only [malformed_ofWord_append_iff, not_or, Nat.not_le, Nat.not_lt, List.length_append,
    Bytes.length_ofWord] at held
  obtain ⟨positive, fits, enough⟩ := held
  obtain ⟨entries, rest, rfl, number⟩ := exists_eq_flatMap_encode count.toNat behind
    (Nat.le_of_add_le_add_left enough)
  refine ⟨entries, rest, ?_, number ▸ fits, by simp [encode, number]⟩
  rintro rfl
  exact positive (UInt64.toNat.inj number.symm)

theorem decode?_eq_none_iff : decode? bytes = none ↔ Malformed bytes := by
  constructor
  · intro unread
    by_contra held
    obtain ⟨entries, rest, nonempty, fits, rfl⟩ := exists_eq_encode_of_not_malformed held
    rw [decode?_encode_append nonempty fits] at unread
    cases unread
  · intro malformed
    cases counted : bytes.takeWord? with
    | none => simp [decode?, counted]
    | some read =>
      obtain ⟨count, behind⟩ := read
      obtain rfl := Bytes.takeWord?_eq_some_iff.mp counted
      rw [decode?_ofWord_append, if_pos ((malformed_ofWord_append_iff count behind).mp malformed)]

/-- A history is read from its written form, whatever stands behind it, and from nothing else. -/
theorem decode?_eq_some_iff :
    decode? bytes = some entries ↔
      entries ≠ [] ∧ span entries.length < UInt64.size ∧ ∃ rest, bytes = encode entries ++ rest := by
  constructor
  · intro read
    have held : ¬ Malformed bytes := by
      rw [← decode?_eq_none_iff, read]
      exact nofun
    obtain ⟨stored, rest, nonempty, fits, rfl⟩ := exists_eq_encode_of_not_malformed held
    rw [decode?_encode_append nonempty fits] at read
    obtain rfl := Option.some.inj read
    exact ⟨nonempty, fits, rest, rfl⟩
  · rintro ⟨nonempty, fits, rest, rfl⟩
    exact decode?_encode_append nonempty fits rest

/-- The bytes of a history announce as many entries as there are. -/
theorem wordAt_encode_append (fits : span entries.length < UInt64.size) (rest : Bytes) :
    (encode entries ++ rest).wordAt 0 = entries.length := by
  have small : entries.length < UInt64.size := by
    unfold span SlotHash.width at fits
    omega
  have count := Bytes.wordAt_append [] (entries.flatMap SlotHash.encode ++ rest)
    (UInt64.ofNat entries.length) 0 rfl
  rw [UInt64.toNat_ofNat', Nat.mod_eq_of_lt small] at count
  simpa [encode] using count

/-- The entries of a history stand at their positions. -/
theorem entryAt?_encode_append (inside : position < entries.length) (rest : Bytes) :
    entryAt? (encode entries ++ rest) position = some entries[position] := by
  -- The entries in front take as many bytes as are skipped.
  have parts := entries.take_append_drop position
  rw [List.drop_eq_getElem_cons inside] at parts
  have skipped : (Bytes.ofWord (UInt64.ofNat entries.length)
      ++ (entries.take position).flatMap SlotHash.encode).length = span position := by
    rw [List.length_append, Bytes.length_ofWord, length_flatMap_encode,
      List.length_take_of_le (Nat.le_of_lt inside), span]
  have stored : entries.flatMap SlotHash.encode = (entries.take position).flatMap SlotHash.encode
      ++ (entries[position].encode
        ++ (entries.drop (position + 1)).flatMap SlotHash.encode) := by
    rw [← List.flatMap_cons, ← List.flatMap_append, parts]
  rw [entryAt?, encode, stored, ← skipped, ← List.append_assoc, List.append_assoc, List.drop_left,
    List.append_assoc, SlotHash.take?_eq_some_iff.mpr rfl, Option.map_some]

/-! ### Search -/

/-- Whatever the predicate, it holds in front of the position that is found and fails at it, unless the
position is at an end. -/
theorem search_boundary (past : Nat → Bool) (lo hi : Nat) (ordered : lo ≤ hi) :
    (search past lo hi = lo ∨ past (search past lo hi - 1) = true) ∧
      (search past lo hi = hi ∨ past (search past lo hi) = false) := by
  fun_induction search past lo hi with
  | case1 lo hi active mid isPast ih =>
    obtain ⟨front, behind⟩ := ih (by omega)
    refine ⟨.inr ?_, behind⟩
    rcases front with start | front
    · rwa [start, Nat.add_sub_cancel]
    · exact front
  | case2 lo hi active mid notPast ih =>
    obtain ⟨front, behind⟩ := ih (by omega)
    refine ⟨front, .inr ?_⟩
    rcases behind with stop | behind
    · rwa [stop, ← Bool.not_eq_true]
    · exact behind
  | case3 lo hi inactive => exact ⟨.inl rfl, .inl (by omega)⟩

theorem isPast_eq_true_iff :
    isPast entries deadline position = true ↔
      ∃ entry, entries[position]? = some entry ∧ deadline < entry.slot := by
  simp [isPast, Option.any_eq_true]

/-- The entries past the deadline end with the sample: the next entry is not past the deadline, or there is
none and the history cannot have lost an earlier one past it. -/
structure EndsPast (entries : List SlotHash) (deadline : UInt64) (sample : SlotHash)
    (position : Nat) : Prop where
  entry : entries[position]? = some sample
  past : deadline < sample.slot
  ends : (∃ next, entries[position + 1]? = some next ∧ next.slot ≤ deadline) ∨
    (position + 1 = entries.length ∧
      (entries.length < capacity ∨ sample.slot.toNat = deadline.toNat + 1))

theorem pick_of_search_eq_zero (found : search (isPast entries deadline) 0 entries.length = 0) :
    pick entries deadline = .error .lotteryStillOpen := by
  rw [pick, newerThan, found]
  rfl

/-- The answer when the search finds the position behind an entry. -/
theorem pick_of_search_eq_succ (found : search (isPast entries deadline) 0 entries.length = position + 1)
    (stored : entries[position]? = some sample) :
    pick entries deadline =
      if position + 1 = entries.length ∧ capacity ≤ entries.length
          ∧ sample.slot ≠ Amount.succSaturating deadline then
        .error .checkpointExpired
      else .ok sample := by
  have inside : position < entries.length := (List.getElem?_eq_some_iff.mp stored).1
  have last : (entries.take (position + 1)).getLast? = some sample := by
    rw [List.getLast?_take, if_neg (Nat.succ_ne_zero position), Nat.add_sub_cancel, stored]
    rfl
  simp only [pick, newerThan, found, last, List.length_take_of_le inside]

/-- What is picked from entries in any order. -/
theorem exists_endsPast (picked : pick entries deadline = .ok sample) :
    ∃ position, EndsPast entries deadline sample position := by
  obtain ⟨-, within⟩ := search_bounds (isPast entries deadline) 0 entries.length (Nat.zero_le _)
  obtain ⟨front, behind⟩ := search_boundary (isPast entries deadline) 0 entries.length
    (Nat.zero_le _)
  cases found : search (isPast entries deadline) 0 entries.length with
  | zero =>
    rw [pick_of_search_eq_zero found] at picked
    cases picked
  | succ position =>
    rw [found] at within front behind
    obtain ⟨entry, stored, past⟩ := isPast_eq_true_iff.mp (front.resolve_left (Nat.succ_ne_zero _))
    rw [pick_of_search_eq_succ found stored] at picked
    split at picked
    · cases picked
    · rename_i kept
      obtain rfl := Except.ok.inj picked
      refine ⟨position, stored, past, ?_⟩
      rcases Nat.lt_or_ge (position + 1) entries.length with inside | outside
      · refine .inl ⟨entries[position + 1], List.getElem?_eq_getElem inside, ?_⟩
        have notPast := behind.resolve_left (Nat.ne_of_lt inside)
        rw [← Bool.not_eq_true, isPast_eq_true_iff] at notPast
        exact UInt64.not_lt.mp fun past => notPast ⟨_, List.getElem?_eq_getElem inside, past⟩
      · have last := Nat.le_antisymm within outside
        refine .inr ⟨last, ?_⟩
        rcases Nat.lt_or_ge entries.length capacity with few | full
        · exact .inl few
        · right
          by_contra gap
          exact kept ⟨last, full, (ne_succSaturating_iff past).mpr gap⟩

end SlotHistory

end RangeLottery
