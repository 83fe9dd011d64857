import RangeLottery.Record.Lottery

/-!
The stored forms of the records are exact: a byte string is accepted if its length, its first byte and
two of its words are right, whatever the other bytes are, and then it is the one written form of the
record that is read. Bytes of the right length always split into the fields of a layout, so nothing but
these three conditions can refuse them. Main statement: both layouts are canonical, and no byte string is
read both as a lottery and as a ticket.
-/

namespace RangeLottery

namespace Bytes

/-- The 64-bit number stored at an offset. -/
def wordAt (bytes : Bytes) (offset : Nat) : Nat :=
  toNat ((bytes.drop offset).take 8)

theorem toNat_ofWord (n : UInt64) : toNat (ofWord n) = n.toNat := by
  rw [ofWord, toNat_littleEndian]
  exact Nat.mod_eq_of_lt n.toNat_lt_size

/-- A field is read at the length of what stands before it. -/
theorem wordAt_append (before after : Bytes) (n : UInt64) (offset : Nat)
    (length : before.length = offset) : wordAt (before ++ (ofWord n ++ after)) offset = n.toNat := by
  rw [wordAt, ← length, List.drop_left, ← length_ofWord n, List.take_left, toNat_ofWord]

theorem exists_eq_ofWord_append {bytes : Bytes} {width : Nat} (length : bytes.length = 8 + width) :
    ∃ n rest, bytes = ofWord n ++ rest ∧ rest.length = width := by
  have enough : 8 ≤ bytes.length := by omega
  refine ⟨UInt64.ofNat (toNat (bytes.take 8)), bytes.drop 8, takeWord?_eq_some_iff.mp ?_, ?_⟩
  · simp [takeWord?, take?, enough]
  · rw [List.length_drop]
    omega

end Bytes

theorem Key.exists_eq_bytes_append {bytes : Bytes} {width : Nat}
    (length : bytes.length = 32 + width) :
    ∃ (k : Key) (rest : Bytes), bytes = k.bytes ++ rest ∧ rest.length = width := by
  have enough : 32 ≤ bytes.length := by omega
  refine ⟨⟨bytes.take 32, List.length_take_of_le enough⟩, bytes.drop 32, ?_, ?_⟩
  · exact (List.take_append_drop 32 bytes).symm
  · rw [List.length_drop]
    omega

/-- A refusal in the place of nothing read: what is accepted is what was read. -/
theorem Option.elim_eq_ok_iff {α : Type} {read : Option α} {reason : Refusal} {x : α} :
    read.elim (.error reason) .ok = Except.ok x ↔ read = some x := by
  cases read <;> simp

theorem RecordKind.exists_eq_code {code : UInt8} (first : code = 1 ∨ code = 3 ∨ code = 4 ∨ code = 5) :
    ∃ kind : RecordKind, kind.describesLottery = true ∧ code = kind.code := by
  rcases first with rfl | rfl | rfl | rfl
  · exact ⟨undrawn, rfl, rfl⟩
  · exact ⟨settled, rfl, rfl⟩
  · exact ⟨drawn, rfl, rfl⟩
  · exact ⟨voided, rfl, rfl⟩

namespace Record

/-- A layout of `width` bytes that reads the well-formed byte strings, and each as the one record whose
written form it is. -/
structure Canonical {α : Type} (decode : Bytes → Except Refusal α)
    (store : α → Bytes → Except Refusal Unit × Bytes) (width : Nat) (WellFormed : Bytes → Prop)
    (Storable : α → Prop) : Prop where
  accepts : ∀ bytes, (∃ record, decode bytes = .ok record) ↔ WellFormed bytes
  refuses : ∀ bytes, ¬ WellFormed bytes → decode bytes = .error .malformedPayload
  writes_back : ∀ bytes record buffer, decode bytes = .ok record → buffer.length = width →
    store record buffer = (.ok (), bytes)
  reads_back : ∀ record buffer, Storable record → buffer.length = width →
    ∃ bytes, store record buffer = (.ok (), bytes) ∧ decode bytes = .ok record
  keeps : ∀ record buffer, buffer.length ≠ width →
    store record buffer = (.error .malformedPayload, buffer)

/-- A reader that accepts exactly the written forms of the storable records is canonical. -/
theorem canonical_of_decode? {α : Type} {decode? : Bytes → Option α} {encode : α → Bytes}
    {width : Nat} {WellFormed : Bytes → Prop} {Storable : α → Prop}
    (decode?_eq_some_iff : ∀ bytes record,
      decode? bytes = some record ↔ Storable record ∧ bytes = encode record)
    (length_encode : ∀ record, (encode record).length = width)
    (wellFormed_iff : ∀ bytes,
      (∃ record, Storable record ∧ bytes = encode record) ↔ WellFormed bytes) :
    Canonical (fun bytes => (decode? bytes).elim (.error .malformedPayload) .ok)
      (fun record buffer => Record.store (encode record) buffer) width WellFormed Storable := by
  have decode_eq_ok_iff : ∀ bytes record,
      (decode? bytes).elim (.error .malformedPayload) .ok = Except.ok (ε := Refusal) record ↔
        Storable record ∧ bytes = encode record := by
    intro bytes record
    rw [Option.elim_eq_ok_iff, decode?_eq_some_iff]
  constructor
  case accepts =>
    intro bytes
    simp only [decode_eq_ok_iff, wellFormed_iff]
  case refuses =>
    intro bytes malformed
    cases read : decode? bytes with
    | none => rfl
    | some record =>
      exact absurd ((wellFormed_iff bytes).mp ⟨record, (decode?_eq_some_iff _ _).mp read⟩) malformed
  case writes_back =>
    intro bytes record buffer read length
    obtain ⟨-, rfl⟩ := (decode_eq_ok_iff _ _).mp read
    exact if_pos (length.trans (length_encode record).symm)
  case reads_back =>
    intro record buffer storable length
    refine ⟨encode record, if_pos (length.trans (length_encode record).symm), ?_⟩
    exact (decode_eq_ok_iff _ _).mpr ⟨storable, rfl⟩
  case keeps =>
    intro record buffer length
    refine if_neg fun same => length ?_
    rw [same, length_encode]

end Record

namespace Lottery

theorem decode_eq_ok_iff {bytes : Bytes} {l : Lottery} :
    decode bytes = .ok l ↔ l.Storable ∧ bytes = l.encode :=
  Option.elim_eq_ok_iff.trans decode?_eq_some_iff

/-- The bytes of a lottery: the first says a lottery's kind, and no more is sold than the capacity. -/
structure WellFormed (bytes : Bytes) : Prop where
  length : bytes.length = 161
  kind : bytes.head? ∈ [some 1, some 3, some 4, some 5]
  sold : bytes.wordAt 121 ≤ bytes.wordAt 97

/-- Bytes of the right length with a lottery's kind in front are the written form of some record. -/
theorem exists_eq_encode {bytes : Bytes} (length : bytes.length = width)
    (kind : bytes.head? ∈ [some 1, some 3, some 4, some 5]) :
    ∃ l : Lottery, l.kind.describesLottery = true ∧ bytes = l.encode := by
  cases bytes with
  | nil => cases length
  | cons code rest =>
    obtain ⟨named, known, rfl⟩ := RecordKind.exists_eq_code (by simpa using kind)
    have length₀ : rest.length = 32 + (32 + (32 + (8 + (8 + (8 + (8 + (32 + 0))))))) :=
      Nat.succ.inj length
    obtain ⟨authority, rest₁, rfl, length₁⟩ := Key.exists_eq_bytes_append length₀
    obtain ⟨vault, rest₂, rfl, length₂⟩ := Key.exists_eq_bytes_append length₁
    obtain ⟨feeAccount, rest₃, rfl, length₃⟩ := Key.exists_eq_bytes_append length₂
    obtain ⟨capacity, rest₄, rfl, length₄⟩ := Bytes.exists_eq_ofWord_append length₃
    obtain ⟨deadline, rest₅, rfl, length₅⟩ := Bytes.exists_eq_ofWord_append length₄
    obtain ⟨number, rest₆, rfl, length₆⟩ := Bytes.exists_eq_ofWord_append length₅
    obtain ⟨sold, rest₇, rfl, length₇⟩ := Bytes.exists_eq_ofWord_append length₆
    obtain ⟨mint, rest₈, rfl, length₈⟩ := Key.exists_eq_bytes_append length₇
    rw [List.length_eq_zero_iff.mp length₈]
    exact ⟨⟨named, authority, vault, feeAccount, capacity, deadline, number, sold, mint⟩, known,
      by simp [encode]⟩

theorem wordAt_encode_capacity (l : Lottery) : l.encode.wordAt 97 = l.capacity.toNat := by
  have split := Bytes.wordAt_append
    (l.kind.code :: l.authority.bytes ++ l.vault.bytes ++ l.feeAccount.bytes)
    (Bytes.ofWord l.deadline ++ Bytes.ofWord l.number ++ Bytes.ofWord l.sold ++ l.mint.bytes)
    l.capacity 97 (by simp)
  simpa [encode] using split

theorem wordAt_encode_sold (l : Lottery) : l.encode.wordAt 121 = l.sold.toNat := by
  have split := Bytes.wordAt_append
    (l.kind.code :: l.authority.bytes ++ l.vault.bytes ++ l.feeAccount.bytes
      ++ Bytes.ofWord l.capacity ++ Bytes.ofWord l.deadline ++ Bytes.ofWord l.number)
    l.mint.bytes l.sold 121 (by simp)
  simpa [encode] using split

theorem wellFormed_iff (bytes : Bytes) :
    (∃ l : Lottery, l.Storable ∧ bytes = l.encode) ↔ WellFormed bytes := by
  constructor
  · rintro ⟨l, ⟨kind, sold⟩, rfl⟩
    refine ⟨length_encode l, ?_, ?_⟩
    · rw [encode]
      revert kind
      cases l.kind <;> simp [RecordKind.describesLottery, RecordKind.code]
    · rw [wordAt_encode_sold, wordAt_encode_capacity]
      exact UInt64.le_iff_toNat_le.mp sold
  · rintro ⟨length, kind, sold⟩
    obtain ⟨l, known, rfl⟩ := exists_eq_encode length kind
    rw [wordAt_encode_sold, wordAt_encode_capacity] at sold
    exact ⟨l, ⟨known, UInt64.le_iff_toNat_le.mpr sold⟩, rfl⟩

end Lottery

namespace Ticket

theorem decode_eq_ok_iff {bytes : Bytes} {t : Ticket} :
    decode bytes = .ok t ↔ t.start < t.stop ∧ bytes = t.encode :=
  Option.elim_eq_ok_iff.trans decode?_eq_some_iff

/-- The bytes of a ticket: the first says so, and the range is not empty. -/
structure WellFormed (bytes : Bytes) : Prop where
  length : bytes.length = 81
  kind : bytes.head? = some 2
  nonempty : bytes.wordAt 65 < bytes.wordAt 73

/-- Bytes of the right length with the kind of a ticket in front are the written form of some ticket. -/
theorem exists_eq_encode {bytes : Bytes} (length : bytes.length = width)
    (kind : bytes.head? = some 2) : ∃ t : Ticket, bytes = t.encode := by
  cases bytes with
  | nil => cases length
  | cons code rest =>
    obtain rfl : code = RecordKind.ticket.code := Option.some.inj kind
    have length₀ : rest.length = 32 + (32 + (8 + (8 + 0))) := Nat.succ.inj length
    obtain ⟨lottery, rest₁, rfl, length₁⟩ := Key.exists_eq_bytes_append length₀
    obtain ⟨buyer, rest₂, rfl, length₂⟩ := Key.exists_eq_bytes_append length₁
    obtain ⟨start, rest₃, rfl, length₃⟩ := Bytes.exists_eq_ofWord_append length₂
    obtain ⟨stop, rest₄, rfl, length₄⟩ := Bytes.exists_eq_ofWord_append length₃
    rw [List.length_eq_zero_iff.mp length₄]
    exact ⟨⟨lottery, buyer, start, stop⟩, by simp [encode]⟩

theorem wordAt_encode_start (t : Ticket) : t.encode.wordAt 65 = t.start.toNat := by
  have split := Bytes.wordAt_append
    (RecordKind.ticket.code :: t.lottery.bytes ++ t.buyer.bytes) (Bytes.ofWord t.stop)
    t.start 65 (by simp)
  simpa [encode] using split

theorem wordAt_encode_stop (t : Ticket) : t.encode.wordAt 73 = t.stop.toNat := by
  have split := Bytes.wordAt_append
    (RecordKind.ticket.code :: t.lottery.bytes ++ t.buyer.bytes ++ Bytes.ofWord t.start) []
    t.stop 73 (by simp)
  simpa [encode] using split

theorem wellFormed_iff (bytes : Bytes) :
    (∃ t : Ticket, t.start < t.stop ∧ bytes = t.encode) ↔ WellFormed bytes := by
  constructor
  · rintro ⟨t, nonempty, rfl⟩
    refine ⟨length_encode t, rfl, ?_⟩
    rw [wordAt_encode_start, wordAt_encode_stop]
    exact UInt64.lt_iff_toNat_lt.mp nonempty
  · rintro ⟨length, kind, nonempty⟩
    obtain ⟨t, rfl⟩ := exists_eq_encode length kind
    rw [wordAt_encode_start, wordAt_encode_stop] at nonempty
    exact ⟨t, UInt64.lt_iff_toNat_lt.mpr nonempty, rfl⟩

end Ticket

namespace Record

/-- The stored forms of lotteries and tickets are canonical and exclude each other. -/
theorem canonical_codecs :
    Canonical Lottery.decode Lottery.store 161 Lottery.WellFormed Lottery.Storable ∧
      Canonical Ticket.decode Ticket.store 81 Ticket.WellFormed (fun t => t.start < t.stop) ∧
        ∀ bytes l t, ¬ (Lottery.decode bytes = .ok l ∧ Ticket.decode bytes = .ok t) := by
  have lotteries : Canonical Lottery.decode Lottery.store 161 Lottery.WellFormed Lottery.Storable :=
    canonical_of_decode? (fun _ _ => Lottery.decode?_eq_some_iff) Lottery.length_encode
      Lottery.wellFormed_iff
  have tickets :
      Canonical Ticket.decode Ticket.store 81 Ticket.WellFormed fun t => t.start < t.stop :=
    canonical_of_decode? (fun _ _ => Ticket.decode?_eq_some_iff) Ticket.length_encode
      Ticket.wellFormed_iff
  refine ⟨lotteries, tickets, ?_⟩
  rintro bytes l t ⟨asLottery, asTicket⟩
  have first := ((lotteries.accepts bytes).mp ⟨l, asLottery⟩).length
  have second := ((tickets.accepts bytes).mp ⟨t, asTicket⟩).length
  omega

end Record

end RangeLottery
