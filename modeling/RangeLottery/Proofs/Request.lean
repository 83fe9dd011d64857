import RangeLottery.Proofs.Record.Codec
import RangeLottery.Request

/-!
The wire format of requests. The tag of a request fixes the length of what stands behind it and nothing
else is asked of the bytes, so the strings that are a request can be listed by their tags. Main
statement: exactly these strings are read, each as the one request that is written so.
-/

namespace RangeLottery.Request

/-- The bytes of a request: a tag, and behind it as many bytes as the tag asks for. -/
inductive WellFormed : Bytes → Prop
  | launch {payload : Bytes} (length : payload.length = 16) : WellFormed (0 :: payload)
  | buy {payload : Bytes} (length : payload.length = 8) : WellFormed (1 :: payload)
  | draw : WellFormed [2]
  | settle : WellFormed [3]
  | void : WellFormed [4]

/-- The bytes name the request by their tag and have its numbers behind the tag, in order. -/
def Spells (bytes : Bytes) : Request → Prop
  | launch capacity deadline =>
    bytes.head? = some 0 ∧ bytes.wordAt 1 = capacity.toNat ∧ bytes.wordAt 9 = deadline.toNat
  | buy amount => bytes.head? = some 1 ∧ bytes.wordAt 1 = amount.toNat
  | draw => bytes.head? = some 2
  | settle => bytes.head? = some 3
  | void => bytes.head? = some 4

/-- The requests and the well-formed bytes correspond to each other one to one. -/
structure Corresponds (decode : Bytes → Except Refusal Request) (encode : Request → Bytes) :
    Prop where
  accepts : ∀ bytes, (∃ request, decode bytes = .ok request) ↔ WellFormed bytes
  refuses : ∀ bytes, ¬ WellFormed bytes → decode bytes = .error .malformedPayload
  reads_back : ∀ request, decode (encode request) = .ok request
  writes_back : ∀ bytes request, decode bytes = .ok request → encode request = bytes
  unique : ∀ bytes bytes' request, decode bytes = .ok request → decode bytes' = .ok request →
    bytes = bytes'
  spells : ∀ bytes request, decode bytes = .ok request → Spells bytes request

variable {bytes : Bytes} {request : Request}

theorem decode_eq_ok_iff : decode bytes = .ok request ↔ bytes = request.encode :=
  Option.elim_eq_ok_iff.trans decode?_eq_some_iff

theorem decode_eq_error_of_forall_ne (unread : ∀ request, decode bytes ≠ .ok request) :
    decode bytes = .error .malformedPayload := by
  unfold decode at unread ⊢
  cases read : decode? bytes with
  | none => rfl
  | some request => exact absurd (Option.elim_eq_ok_iff.mpr read) (unread request)

theorem wellFormed_encode (request : Request) : WellFormed request.encode := by
  cases request with
  | launch capacity deadline =>
    rw [encode, List.cons_append]
    exact .launch (by simp)
  | buy amount => exact .buy (Bytes.length_ofWord amount)
  | draw => exact .draw
  | settle => exact .settle
  | void => exact .void

/-- Whatever stands behind a tag spells numbers, if there is enough of it. -/
theorem WellFormed.exists_eq_encode (wellFormed : WellFormed bytes) :
    ∃ request : Request, bytes = request.encode := by
  cases wellFormed with
  | @launch payload length =>
    have length₀ : payload.length = 8 + (8 + 0) := length
    obtain ⟨capacity, rest, rfl, length₁⟩ := Bytes.exists_eq_ofWord_append length₀
    obtain ⟨deadline, rest, rfl, length₂⟩ := Bytes.exists_eq_ofWord_append length₁
    rw [List.length_eq_zero_iff.mp length₂, List.append_nil]
    exact ⟨.launch capacity deadline, rfl⟩
  | @buy payload length =>
    have length₀ : payload.length = 8 + 0 := length
    obtain ⟨amount, rest, rfl, length₁⟩ := Bytes.exists_eq_ofWord_append length₀
    rw [List.length_eq_zero_iff.mp length₁, List.append_nil]
    exact ⟨.buy amount, rfl⟩
  | draw => exact ⟨.draw, rfl⟩
  | settle => exact ⟨.settle, rfl⟩
  | void => exact ⟨.void, rfl⟩

theorem spells_encode (request : Request) : Spells request.encode request := by
  cases request with
  | launch capacity deadline =>
    have first := Bytes.wordAt_append [0] (Bytes.ofWord deadline) capacity 1 rfl
    have second := Bytes.wordAt_append (0 :: Bytes.ofWord capacity) [] deadline 9 (by simp)
    rw [List.append_nil] at second
    exact ⟨rfl, first, second⟩
  | buy amount =>
    have only := Bytes.wordAt_append [1] [] amount 1 rfl
    rw [List.append_nil] at only
    exact ⟨rfl, only⟩
  | draw | settle | void => rfl

/-- The bytes that are read as a request are those of a known tag and the right length, and each is the
only written form of its request. -/
theorem wire_format_exact : Corresponds decode encode where
  accepts bytes := by
    constructor
    · rintro ⟨request, read⟩
      rw [decode_eq_ok_iff.mp read]
      exact wellFormed_encode request
    · intro wellFormed
      obtain ⟨request, rfl⟩ := wellFormed.exists_eq_encode
      exact ⟨request, decode_eq_ok_iff.mpr rfl⟩
  refuses bytes malformed := by
    apply decode_eq_error_of_forall_ne
    intro request read
    rw [decode_eq_ok_iff.mp read] at malformed
    exact malformed (wellFormed_encode request)
  reads_back request := decode_eq_ok_iff.mpr rfl
  writes_back bytes request read := (decode_eq_ok_iff.mp read).symm
  unique bytes bytes' request read read' :=
    (decode_eq_ok_iff.mp read).trans (decode_eq_ok_iff.mp read').symm
  spells bytes request read := by
    rw [decode_eq_ok_iff.mp read]
    exact spells_encode request

end RangeLottery.Request
