import RangeLottery.Ledger.Token

/-!
The stored form of token accounts. Replacing the amount of a stored token account changes the amount
that is read back and nothing else that is read, and a token account that was just opened reads back
with its mint, its owner and no tokens.
-/

namespace RangeLottery

theorem Bytes.skipOptional?_eq_some_iff {width : Nat} {bytes rest : Bytes} :
    Bytes.skipOptional? width bytes = some rest ↔
      ∃ mark field, (mark = 0 ∨ mark = 1) ∧ field.length = width ∧
        bytes = Bytes.ofHalfWord mark ++ (field ++ rest) := by
  simp only [Bytes.skipOptional?, Option.bind_eq_bind, Option.bind_eq_some_iff, Prod.exists,
    Bytes.takeHalfWord?_eq_some_iff, Bytes.take?_eq_some_iff, Option.ite_none_right_eq_some,
    Option.some.injEq]
  constructor
  · rintro ⟨mark, _, rfl, field, _, ⟨wide, rfl⟩, marked, rfl⟩
    exact ⟨mark, field, marked, wide, rfl⟩
  · rintro ⟨mark, field, marked, wide, rfl⟩
    exact ⟨mark, _, rfl, field, _, ⟨wide, rfl⟩, marked, rfl⟩

theorem Bytes.length_of_skipOptional? {width : Nat} {bytes rest : Bytes}
    (skipped : Bytes.skipOptional? width bytes = some rest) :
    bytes.length = 4 + width + rest.length := by
  obtain ⟨mark, field, -, wide, rfl⟩ := Bytes.skipOptional?_eq_some_iff.mp skipped
  simp only [List.length_append, Bytes.length_ofHalfWord, wide]
  omega

namespace TokenAccount

/-- The state in what follows the amount. -/
def stateBehind? (bytes : Bytes) : Option UInt8 := do
  let bytes ← Bytes.skipOptional? 32 bytes
  let (state, bytes) ← Bytes.takeByte? bytes
  let bytes ← Bytes.skipOptional? 8 bytes
  let (_, bytes) ← Bytes.takeWord? bytes
  let rest ← Bytes.skipOptional? 32 bytes
  if rest = [] ∧ state ≤ 2 then some state else none

/-- The fields in front of the state are read independently of what follows them. -/
theorem parse?_eq_some_iff {bytes : Bytes} {t : TokenAccount} {state : UInt8} :
    parse? bytes = some (t, state) ↔
      ∃ tail, bytes = t.mint.bytes ++ (t.owner.bytes ++ (Bytes.ofWord t.amount ++ tail)) ∧
        stateBehind? tail = some state := by
  obtain ⟨mint, owner, amount⟩ := t
  simp only [parse?, stateBehind?, Option.bind_eq_bind, Option.bind_eq_some_iff, Prod.exists,
    Key.take?_eq_some_iff, Bytes.takeWord?_eq_some_iff, Bytes.takeByte?_eq_some_iff,
    Option.ite_none_right_eq_some, Option.some.injEq, Prod.mk.injEq, mk.injEq]
  constructor
  · rintro ⟨_, _, rfl, _, _, rfl, _, tail, rfl, _, delegate, _, _, rfl, _, native, delegated, _, rfl,
      rest, closing, accepted, ⟨rfl, rfl, rfl⟩, rfl⟩
    exact ⟨tail, rfl, _, delegate, _, _, rfl, _, native, delegated, _, rfl, rest, closing, accepted,
      rfl⟩
  · rintro ⟨tail, rfl, _, delegate, _, _, rfl, _, native, delegated, _, rfl, rest, closing, accepted,
      rfl⟩
    exact ⟨mint, _, rfl, owner, _, rfl, amount, tail, rfl, _, delegate, _, _, rfl, _, native,
      delegated, _, rfl, rest, closing, accepted, ⟨rfl, rfl, rfl⟩, rfl⟩

theorem length_of_stateBehind? {tail : Bytes} {state : UInt8}
    (found : stateBehind? tail = some state) : tail.length = 93 := by
  simp only [stateBehind?, Option.bind_eq_bind, Option.bind_eq_some_iff, Prod.exists,
    Bytes.takeWord?_eq_some_iff, Bytes.takeByte?_eq_some_iff,
    Option.ite_none_right_eq_some, Option.some.injEq] at found
  obtain ⟨_, delegate, _, afterState, rfl, _, native, _, afterAmount, rfl, _, closing, ⟨rfl, -⟩,
    rfl⟩ := found
  have delegate_length := Bytes.length_of_skipOptional? delegate
  have native_length := Bytes.length_of_skipOptional? native
  have closing_length := Bytes.length_of_skipOptional? closing
  simp only [List.length_cons, List.length_append, Bytes.length_ofWord, List.length_nil]
    at delegate_length native_length closing_length
  omega

theorem decode_eq_ok_iff {bytes : Bytes} {t : TokenAccount} :
    decode bytes = .ok t ↔ ∃ state, parse? bytes = some (t, state) ∧ state ≠ 0 := by
  unfold decode
  cases parsed : parse? bytes with
  | none => simp
  | some read =>
    obtain ⟨found, state⟩ := read
    by_cases unset : state = 0
    · simp [unset]
    · simp only [unset, if_false, Except.ok.injEq, Option.some.injEq, Prod.mk.injEq]
      constructor
      · rintro rfl
        exact ⟨state, ⟨rfl, rfl⟩, unset⟩
      · rintro ⟨_, ⟨rfl, rfl⟩, _⟩
        rfl

theorem length_of_decode {bytes : Bytes} {t : TokenAccount} (decoded : decode bytes = .ok t) :
    bytes.length = width := by
  obtain ⟨state, parsed, -⟩ := decode_eq_ok_iff.mp decoded
  obtain ⟨tail, rfl, behind⟩ := parse?_eq_some_iff.mp parsed
  simp [length_of_stateBehind? behind, width]

theorem setAmount_fields (t : TokenAccount) (tail : Bytes) (amount : UInt64) :
    setAmount (t.mint.bytes ++ (t.owner.bytes ++ (Bytes.ofWord t.amount ++ tail))) amount =
      t.mint.bytes ++ (t.owner.bytes ++ (Bytes.ofWord amount ++ tail)) := by
  simp [setAmount, List.take_append, List.drop_append, List.take_of_length_le,
    List.drop_of_length_le]

/-- Only the amount that is read back changes. -/
theorem decode_setAmount {bytes : Bytes} {t : TokenAccount} (decoded : decode bytes = .ok t)
    (amount : UInt64) : decode (setAmount bytes amount) = .ok { t with amount } := by
  obtain ⟨state, parsed, live⟩ := decode_eq_ok_iff.mp decoded
  obtain ⟨tail, rfl, behind⟩ := parse?_eq_some_iff.mp parsed
  rw [setAmount_fields]
  exact decode_eq_ok_iff.mpr ⟨state, parse?_eq_some_iff.mpr ⟨tail, rfl, behind⟩, live⟩

theorem decode_encodeNew (mint owner : Key) : decode (encodeNew mint owner) = .ok ⟨mint, owner, 0⟩ := by
  have behind : stateBehind? (List.replicate 36 0 ++ 1 :: List.replicate 56 0) = some 1 := by decide
  have fields : encodeNew mint owner = mint.bytes ++ (owner.bytes ++ (Bytes.ofWord 0 ++
      (List.replicate 36 0 ++ 1 :: List.replicate 56 0))) := by
    simp only [encodeNew, List.append_assoc]
  exact decode_eq_ok_iff.mpr ⟨1, parse?_eq_some_iff.mpr ⟨_, fields, behind⟩, by decide⟩

end TokenAccount

end RangeLottery
