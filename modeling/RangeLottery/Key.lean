import RangeLottery.Bytes

/-!
Keys: the 32-byte values that name accounts, programs and wallets. Digests have the same shape and
share the type. Main statement: a key that was written reads back, and only its own bytes read as
it.
-/

namespace RangeLottery

/-- Thirty-two bytes: the address of an account, or a digest. -/
structure Key where
  bytes : Bytes
  length_eq : bytes.length = 32
  deriving DecidableEq, Repr

namespace Key

/-- The key whose bytes, most significant first, spell `n`. -/
def ofNat (n : Nat) : Key :=
  ⟨(Bytes.littleEndian 32 n).reverse, by simp⟩

/-- The key of thirty-two zero bytes. -/
def zero : Key :=
  ofNat 0

instance : Inhabited Key := ⟨zero⟩

attribute [simp] length_eq

/-- A key off the front. -/
def take? (bytes : Bytes) : Option (Key × Bytes) :=
  if enough : 32 ≤ bytes.length then
    some (⟨bytes.take 32, List.length_take_of_le enough⟩, bytes.drop 32)
  else none

theorem take?_eq_some_iff {bytes rest : Bytes} {k : Key} :
    take? bytes = some (k, rest) ↔ bytes = k.bytes ++ rest := by
  unfold take?
  constructor
  · intro taken
    split at taken
    · simp only [Option.some.injEq, Prod.mk.injEq] at taken
      obtain ⟨rfl, rfl⟩ := taken
      exact (List.take_append_drop 32 bytes).symm
    · simp at taken
  · rintro rfl
    simp

@[simp] theorem take?_append (k : Key) (rest : Bytes) : take? (k.bytes ++ rest) = some (k, rest) :=
  take?_eq_some_iff.mpr rfl

@[simp] theorem take?_bytes (k : Key) : take? k.bytes = some (k, []) :=
  take?_eq_some_iff.mpr (List.append_nil _).symm

end Key

end RangeLottery
