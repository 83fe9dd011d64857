/-!
Byte strings and the fixed-width fields that records, requests and events are laid out in. A
number is written least significant byte first. Reading takes one field off the front and returns
the rest, or fails when too few bytes are left. Main statements: a field that was written reads
back, and a field that was read was written that way, so a layout built from these fields has one
written form for each value.
-/

namespace RangeLottery

abbrev Bytes := List UInt8

namespace Bytes

/-- The bytes of a text of ASCII characters. -/
def ofAscii (text : String) : Bytes :=
  text.toList.map fun c => UInt8.ofNat c.toNat

/-! ### Numbers -/

/-- The `width` low bytes of `n`, least significant first. -/
def littleEndian : Nat → Nat → Bytes
  | 0, _ => []
  | width + 1, n => UInt8.ofNat n :: littleEndian width (n / 256)

/-- The number that `bytes` spell, least significant byte first. -/
def toNat : Bytes → Nat
  | [] => 0
  | b :: rest => b.toNat + 256 * toNat rest

/-- The number that `bytes` spell, most significant byte first. -/
def toNatBigEndian (bytes : Bytes) : Nat :=
  toNat bytes.reverse

/-- A 64-bit number as eight bytes. -/
def ofWord (n : UInt64) : Bytes :=
  littleEndian 8 n.toNat

/-- A 32-bit number as four bytes. -/
def ofHalfWord (n : UInt32) : Bytes :=
  littleEndian 4 n.toNat

@[simp] theorem length_littleEndian (width n : Nat) : (littleEndian width n).length = width := by
  induction width generalizing n with
  | zero => rfl
  | succ width ih => simp [littleEndian, ih]

@[simp] theorem length_ofWord (n : UInt64) : (ofWord n).length = 8 :=
  length_littleEndian 8 n.toNat

@[simp] theorem length_ofHalfWord (n : UInt32) : (ofHalfWord n).length = 4 :=
  length_littleEndian 4 n.toNat

theorem toNat_lt (bytes : Bytes) : toNat bytes < Nat.pow 256 bytes.length := by
  induction bytes with
  | nil => simp [toNat]
  | cons b rest ih =>
    have bound := b.toNat_lt
    have power : Nat.pow 256 (rest.length + 1) = 256 * Nat.pow 256 rest.length :=
      Nat.mul_comm (Nat.pow 256 rest.length) 256
    rw [toNat, List.length_cons, power]
    omega

theorem toNat_littleEndian (width n : Nat) : toNat (littleEndian width n) = n % Nat.pow 256 width := by
  induction width generalizing n with
  | zero => simp [littleEndian, toNat, Nat.mod_one]
  | succ width ih =>
    have power : Nat.pow 256 (width + 1) = 256 * Nat.pow 256 width :=
      Nat.mul_comm (Nat.pow 256 width) 256
    simp only [littleEndian, toNat, ih, UInt8.toNat_ofNat']
    rw [power, Nat.mod_mul]

theorem littleEndian_toNat (bytes : Bytes) : littleEndian bytes.length (toNat bytes) = bytes := by
  induction bytes with
  | nil => rfl
  | cons b rest ih =>
    have bound := b.toNat_lt
    have quotient : (b.toNat + 256 * toNat rest) / 256 = toNat rest := by omega
    simp only [List.length_cons, littleEndian, toNat, quotient, ih, List.cons.injEq, and_true]
    apply UInt8.toNat.inj
    simp only [UInt8.toNat_ofNat']
    omega

/-! ### Fields -/

/-- The first `width` bytes and the rest. -/
def take? (width : Nat) (bytes : Bytes) : Option (Bytes × Bytes) :=
  if width ≤ bytes.length then some (bytes.take width, bytes.drop width) else none

/-- One byte off the front. -/
def takeByte? : Bytes → Option (UInt8 × Bytes)
  | [] => none
  | b :: rest => some (b, rest)

/-- A 64-bit number off the front. -/
def takeWord? (bytes : Bytes) : Option (UInt64 × Bytes) :=
  (take? 8 bytes).map fun (field, rest) => (UInt64.ofNat (toNat field), rest)

/-- A 32-bit number off the front. -/
def takeHalfWord? (bytes : Bytes) : Option (UInt32 × Bytes) :=
  (take? 4 bytes).map fun (field, rest) => (UInt32.ofNat (toNat field), rest)

theorem take?_eq_some_iff {width : Nat} {bytes field rest : Bytes} :
    take? width bytes = some (field, rest) ↔ field.length = width ∧ bytes = field ++ rest := by
  unfold take?
  constructor
  · intro taken
    split at taken
    · rename_i enough
      simp only [Option.some.injEq, Prod.mk.injEq] at taken
      obtain ⟨rfl, rfl⟩ := taken
      exact ⟨List.length_take_of_le enough, (List.take_append_drop width bytes).symm⟩
    · simp at taken
  · rintro ⟨rfl, rfl⟩
    simp

theorem takeByte?_eq_some_iff {bytes rest : Bytes} {b : UInt8} :
    takeByte? bytes = some (b, rest) ↔ bytes = b :: rest := by
  cases bytes <;> simp [takeByte?]

theorem takeWord?_eq_some_iff {bytes rest : Bytes} {n : UInt64} :
    takeWord? bytes = some (n, rest) ↔ bytes = ofWord n ++ rest := by
  simp only [takeWord?, Option.map_eq_some_iff, Prod.mk.injEq, Prod.exists]
  constructor
  · rintro ⟨field, rest', taken, rfl, rfl⟩
    obtain ⟨width, rfl⟩ := take?_eq_some_iff.mp taken
    have bound : toNat field < UInt64.size := by
      have bound := toNat_lt field
      rwa [width] at bound
    have exactValue : (UInt64.ofNat (toNat field)).toNat = toNat field :=
      UInt64.toNat_ofNat_of_lt' bound
    rw [ofWord, exactValue, ← width, littleEndian_toNat]
  · rintro rfl
    refine ⟨ofWord n, rest, take?_eq_some_iff.mpr ⟨length_ofWord n, rfl⟩, ?_, rfl⟩
    have exactValue : toNat (ofWord n) = n.toNat := by
      rw [ofWord, toNat_littleEndian]
      exact Nat.mod_eq_of_lt n.toNat_lt_size
    rw [exactValue, UInt64.ofNat_toNat]

theorem takeHalfWord?_eq_some_iff {bytes rest : Bytes} {n : UInt32} :
    takeHalfWord? bytes = some (n, rest) ↔ bytes = ofHalfWord n ++ rest := by
  simp only [takeHalfWord?, Option.map_eq_some_iff, Prod.mk.injEq, Prod.exists]
  constructor
  · rintro ⟨field, rest', taken, rfl, rfl⟩
    obtain ⟨width, rfl⟩ := take?_eq_some_iff.mp taken
    have bound : toNat field < UInt32.size := by
      have bound := toNat_lt field
      rwa [width] at bound
    have exactValue : (UInt32.ofNat (toNat field)).toNat = toNat field :=
      UInt32.toNat_ofNat_of_lt' bound
    rw [ofHalfWord, exactValue, ← width, littleEndian_toNat]
  · rintro rfl
    refine ⟨ofHalfWord n, rest, take?_eq_some_iff.mpr ⟨length_ofHalfWord n, rfl⟩, ?_, rfl⟩
    have exactValue : toNat (ofHalfWord n) = n.toNat := by
      rw [ofHalfWord, toNat_littleEndian]
      exact Nat.mod_eq_of_lt n.toNat_lt_size
    rw [exactValue, UInt32.ofNat_toNat]

@[simp] theorem takeByte?_cons (b : UInt8) (rest : Bytes) : takeByte? (b :: rest) = some (b, rest) :=
  rfl

@[simp] theorem takeWord?_append (n : UInt64) (rest : Bytes) :
    takeWord? (ofWord n ++ rest) = some (n, rest) :=
  takeWord?_eq_some_iff.mpr rfl

@[simp] theorem takeWord?_ofWord (n : UInt64) : takeWord? (ofWord n) = some (n, []) :=
  takeWord?_eq_some_iff.mpr (List.append_nil _).symm

@[simp] theorem takeHalfWord?_append (n : UInt32) (rest : Bytes) :
    takeHalfWord? (ofHalfWord n ++ rest) = some (n, rest) :=
  takeHalfWord?_eq_some_iff.mpr rfl

end Bytes

end RangeLottery
