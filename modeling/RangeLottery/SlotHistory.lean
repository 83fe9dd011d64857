import RangeLottery.Amount
import RangeLottery.Key
import RangeLottery.Refusal

/-!
The recent slot hashes, newest first, and the checkpoint of a deadline: the first slot after it.
The entries past the deadline form a prefix, whose length a binary search finds, and the checkpoint
is the last of them. A full history in which every entry is past the deadline may have lost the
checkpoint, unless its oldest entry is the very next slot. On bytes that are not in order the
search still ends and still returns a slot past the deadline.
-/

namespace RangeLottery

/-- A slot and its hash. -/
structure SlotHash where
  slot : UInt64
  hash : Key
  deriving DecidableEq, Repr

namespace SlotHash

/-- The length of a stored entry. -/
def width : Nat :=
  40

def encode (s : SlotHash) : Bytes :=
  Bytes.ofWord s.slot ++ s.hash.bytes

/-- An entry off the front. -/
def take? (bytes : Bytes) : Option (SlotHash × Bytes) := do
  let (slot, bytes) ← Bytes.takeWord? bytes
  let (hash, rest) ← Key.take? bytes
  return (⟨slot, hash⟩, rest)

@[simp] theorem length_encode (s : SlotHash) : s.encode.length = width := by
  simp [encode, width]

theorem take?_eq_some_iff {bytes rest : Bytes} {s : SlotHash} :
    take? bytes = some (s, rest) ↔ bytes = s.encode ++ rest := by
  constructor
  · simp only [take?, Option.bind_eq_bind, Option.bind_eq_some_iff, Prod.exists,
      Bytes.takeWord?_eq_some_iff, Key.take?_eq_some_iff, Option.pure_def, Option.some.injEq,
      Prod.mk.injEq]
    rintro ⟨slot, _, rfl, hash, _, rfl, rfl, rfl⟩
    simp [encode]
  · rintro rfl
    simp [take?, encode]

end SlotHash

namespace SlotHistory

/-- The most entries a history keeps. -/
def capacity : Nat :=
  512

/-! ### Stored form -/

/-- The number of entries and the entries. -/
def encode (entries : List SlotHash) : Bytes :=
  Bytes.ofWord (UInt64.ofNat entries.length) ++ entries.flatMap SlotHash.encode

/-- Entries off the front, as many as asked for. -/
def takeEntries? : Nat → Bytes → Option (List SlotHash)
  | 0, _ => some []
  | count + 1, bytes => do
    let (entry, rest) ← SlotHash.take? bytes
    let entries ← takeEntries? count rest
    return entry :: entries

/-- The length of a stored history of `count` entries. -/
def span (count : Nat) : Nat :=
  8 + SlotHash.width * count

/-- The entries of a stored history, of which there is at least one. Bytes behind the last entry
are ignored, and a number of entries whose length no 64-bit machine can address is refused before
any entry is read. -/
def decode? (bytes : Bytes) : Option (List SlotHash) := do
  let (count, rest) ← Bytes.takeWord? bytes
  if count = 0 ∨ UInt64.size ≤ span count.toNat ∨ bytes.length < span count.toNat then none
  else takeEntries? count.toNat rest

/-! ### Checkpoint -/

/-- The first position of `lo` to `hi` at which `past` fails, if it holds up to there and nowhere
behind; on any other predicate, a position found by the same probes. -/
def search (past : Nat → Bool) (lo hi : Nat) : Nat :=
  if lo < hi then
    let mid := lo + (hi - lo) / 2
    if past mid then search past (mid + 1) hi else search past lo mid
  else lo
termination_by hi - lo

/-- Whether the entry at `position` lies past the deadline. -/
def isPast (entries : List SlotHash) (deadline : UInt64) (position : Nat) : Bool :=
  entries[position]?.any fun entry => deadline < entry.slot

/-- The entries past the deadline. -/
def newerThan (entries : List SlotHash) (deadline : UInt64) : List SlotHash :=
  entries.take (search (isPast entries deadline) 0 entries.length)

/-- The entry of the first slot after `deadline`. -/
def pick (entries : List SlotHash) (deadline : UInt64) : Except Refusal SlotHash :=
  let newer := newerThan entries deadline
  match newer.getLast? with
  | none => .error .lotteryStillOpen
  | some oldest =>
    if newer.length = entries.length ∧ capacity ≤ entries.length
        ∧ oldest.slot ≠ Amount.succSaturating deadline then
      .error .checkpointExpired
    else .ok oldest

/-- The checkpoint of `deadline` in a stored history. -/
def checkpoint (bytes : Bytes) (deadline : UInt64) : Except Refusal SlotHash :=
  match decode? bytes with
  | none => .error .malformedPayload
  | some entries => pick entries deadline

theorem search_bounds (past : Nat → Bool) (lo hi : Nat) (ordered : lo ≤ hi) :
    lo ≤ search past lo hi ∧ search past lo hi ≤ hi := by
  fun_induction search past lo hi with
  | case1 lo hi _ mid _ ih =>
    have bounds := ih (by omega)
    omega
  | case2 lo hi _ mid _ ih =>
    have bounds := ih (by omega)
    omega
  | case3 lo hi _ => omega

end SlotHistory

end RangeLottery
