import RangeLottery.Bytes
import RangeLottery.Refusal

/-!
Requests: what a caller asks the lottery program to do. A request is written as a tag byte and a
payload whose length is fixed by the tag. Main statement: the bytes that decode as a request are
exactly its written form.
-/

namespace RangeLottery

inductive Request where
  /-- Open a lottery of `capacity` numbers that sells until `deadline`. -/
  | launch (capacity deadline : UInt64)
  /-- Buy the next `amount` numbers. -/
  | buy (amount : UInt64)
  | draw
  /-- Pay the winner and the fee. -/
  | settle
  | void
  deriving DecidableEq, Repr

namespace Request

def name : Request → String
  | launch .. => "Init"
  | buy _ => "Buy"
  | draw => "Draw"
  | settle => "Withdraw"
  | void => "Void"

def encode : Request → Bytes
  | launch capacity deadline => 0 :: Bytes.ofWord capacity ++ Bytes.ofWord deadline
  | buy amount => 1 :: Bytes.ofWord amount
  | draw => [2]
  | settle => [3]
  | void => [4]

/-- The request of a tag and the payload behind it. -/
def ofTag? (tag : UInt8) (payload : Bytes) : Option (Request × Bytes) :=
  if tag = 0 then do
    let (capacity, payload) ← Bytes.takeWord? payload
    let (deadline, rest) ← Bytes.takeWord? payload
    return (launch capacity deadline, rest)
  else if tag = 1 then do
    let (amount, rest) ← Bytes.takeWord? payload
    return (buy amount, rest)
  else if tag = 2 then some (draw, payload)
  else if tag = 3 then some (settle, payload)
  else if tag = 4 then some (void, payload)
  else none

def decode? (bytes : Bytes) : Option Request := do
  let (tag, payload) ← Bytes.takeByte? bytes
  let (request, rest) ← ofTag? tag payload
  if rest = [] then some request else none

def decode (bytes : Bytes) : Except Refusal Request :=
  (decode? bytes).elim (.error .malformedPayload) .ok

theorem decode?_encode (request : Request) : decode? request.encode = some request := by
  cases request <;> simp [decode?, encode, ofTag?]

theorem ofTag?_eq_some {tag : UInt8} {payload rest : Bytes} {request : Request}
    (found : ofTag? tag payload = some (request, rest)) :
    tag :: payload = request.encode ++ rest := by
  unfold ofTag? at found
  repeat' split at found
  · rename_i tagged
    simp only [Option.bind_eq_bind, Option.bind_eq_some_iff, Prod.exists,
      Bytes.takeWord?_eq_some_iff, Option.pure_def, Option.some.injEq, Prod.mk.injEq] at found
    obtain ⟨capacity, _, rfl, deadline, _, rfl, rfl, rfl⟩ := found
    simp [encode, tagged]
  · rename_i tagged
    simp only [Option.bind_eq_bind, Option.bind_eq_some_iff, Prod.exists,
      Bytes.takeWord?_eq_some_iff, Option.pure_def, Option.some.injEq, Prod.mk.injEq] at found
    obtain ⟨amount, _, rfl, rfl, rfl⟩ := found
    simp [encode, tagged]
  · simp_all [encode]
    obtain ⟨rfl, rfl⟩ := found
    rfl
  · simp_all [encode]
    obtain ⟨rfl, rfl⟩ := found
    rfl
  · simp_all [encode]
    obtain ⟨rfl, rfl⟩ := found
    rfl
  · simp at found

theorem decode?_eq_some_iff {bytes : Bytes} {request : Request} :
    decode? bytes = some request ↔ bytes = request.encode := by
  constructor
  · simp only [decode?, Option.bind_eq_bind, Option.bind_eq_some_iff, Prod.exists,
      Bytes.takeByte?_eq_some_iff]
    rintro ⟨tag, payload, rfl, found, rest, tagged, built⟩
    split at built
    · rename_i finished
      obtain rfl := Option.some.inj built
      simpa [finished] using ofTag?_eq_some tagged
    · simp at built
  · rintro rfl
    exact decode?_encode request

end Request

end RangeLottery
