import Mathlib.Algebra.GroupWithZero.Nat
import Mathlib.Data.List.Forall2
import RangeLottery.Proofs.Record.Codec
import RangeLottery.Proofs.Record.Course

/-!
The order of sales. Many buyers bid for the numbers of one lottery, and nothing says whose turn comes first.
A bid is refused if and only if it asks for more than is left at its turn, and then the bids behind it fare as
if it had not been made. Main statement: as long as there is enough for all, the order shows neither in the
record nor in the size of anyone's ticket, and so not in the number that is drawn; in any case what is sold is
what was granted, and it stays within the capacity.
-/

namespace RangeLottery

/-- A bid for the next numbers of a lottery, made at a slot. -/
structure Bid where
  buyer : Key
  amount : UInt64
  slot : UInt64
  deriving DecidableEq, Repr

namespace Bid

/-- The purchase that the bid asks of the lottery at `id`. -/
def operation (id : Key) (b : Bid) : Lottery.Operation :=
  .issue id b.buyer b.amount b.slot

/-- The bid is for something, and it comes before the deadline. -/
structure Timely (b : Bid) (deadline : UInt64) : Prop where
  positive : b.amount ≠ 0
  early : b.slot < deadline

/-- The bid was granted a ticket of the lottery at `id`, for as many numbers as it asked for. -/
def Granted (id : Key) (b : Bid) (a : Lottery.Attempt) : Prop :=
  ∃ t, a = ⟨b.operation id, .ok (.issued t)⟩ ∧ t.lottery = id ∧ t.buyer = b.buyer ∧
    t.size = b.amount

/-- How many numbers the bids ask for together. -/
def total (bids : List Bid) : Nat :=
  (bids.map fun b => b.amount.toNat).sum

theorem total_perm {bids bids' : List Bid} (reordered : bids.Perm bids') : total bids = total bids' :=
  (reordered.map _).sum_nat

end Bid

namespace Lottery

variable {bytes : Bytes} {l l' : Lottery} {id : Key} {b : Bid} {bids bids' before behind : List Bid}
  {operation : Operation} {operations : List Operation} {result : Except Refusal Answer}
  {reason : Refusal}

/-- The bids as operations on the lottery at `id`, in their order. -/
def bidding (id : Key) (bids : List Bid) : List Operation :=
  bids.map (Bid.operation id)

/-! ### One bid -/

/-- Why a bid is refused that asks for more than is left. -/
def excess (l : Lottery) (b : Bid) : Refusal :=
  if l.sold.toNat + b.amount.toNat < UInt64.size then .capacityExceeded else .arithmeticOverflow

section Turn

variable (undrawn : l.kind = .undrawn) (timely : b.Timely l.deadline)

include undrawn timely

/-- A bid for at most what is left is granted. -/
theorem perform_bid_of_le (fits : l.sold.toNat + b.amount.toNat ≤ l.capacity.toNat) (id : Key) :
    ∃ t l', l.perform (b.operation id) = (.ok (.issued t), l') ∧ t.lottery = id ∧ t.buyer = b.buyer ∧
      t.size = b.amount ∧ l' = { l with sold := l'.sold } ∧
        l'.sold.toNat = l.sold.toNat + b.amount.toNat := by
  obtain ⟨t, granted, ticket, stop⟩ :=
    exists_issue undrawn timely.early timely.positive fits id b.buyer
  refine ⟨t, { l with sold := t.stop }, ?_, by rw [ticket], by rw [ticket], size_of_issue granted, rfl,
    stop⟩
  rw [Bid.operation, perform, granted]
  rfl

/-- A bid for more than what is left is refused, first for the sum and then for the capacity. -/
theorem perform_bid_of_lt (exceeds : l.capacity.toNat < l.sold.toNat + b.amount.toNat) :
    l.perform (b.operation id) = (.error (l.excess b), l) := by
  have selling : ¬ (l.kind ≠ .undrawn ∨ l.deadline ≤ b.slot) := by
    rintro (other | late)
    · exact other undrawn
    · exact UInt64.not_le.mpr timely.early late
  have refused : l.issue id b.buyer b.amount b.slot = (.error (l.excess b), l) := by
    rw [issue, if_neg selling, if_neg timely.positive, excess]
    cases sum : Amount.add? l.sold b.amount with
    | none => rw [if_neg (Nat.not_lt.mpr (Amount.add?_eq_none_iff.mp sum))]
    | some stop =>
      have exact := Amount.add?_eq_some_iff.mp sum
      rw [exact] at exceeds
      rw [exact, if_pos stop.toNat_lt_size]
      exact if_pos (UInt64.lt_iff_toNat_lt.mpr exceeds)
  rw [Bid.operation, perform, refused]
  rfl

/-- A bid is refused if and only if it asks for more than is left, and the reason says whether the sum is a
64-bit number. -/
theorem bid_refused_iff :
    (l.perform (b.operation id)).1 = .error reason ↔
      l.capacity.toNat - l.sold.toNat < b.amount.toNat ∧ reason = l.excess b := by
  have some := Amount.toNat_pos_iff.mpr timely.positive
  rcases Nat.lt_or_ge l.capacity.toNat (l.sold.toNat + b.amount.toNat) with exceeds | fits
  · have more : l.capacity.toNat - l.sold.toNat < b.amount.toNat := by omega
    rw [perform_bid_of_lt undrawn timely exceeds, and_iff_right more, Except.error.injEq, eq_comm]
  · have less : ¬ l.capacity.toNat - l.sold.toNat < b.amount.toNat := by omega
    obtain ⟨t, l', granted, -⟩ := perform_bid_of_le undrawn timely fits id
    simp [granted, less]

end Turn

/-! ### Bids in turn -/

/-- `l'` is what sales can have made of `l`: only the numbers sold differ, and they are within the
capacity. -/
structure SellsOn (l l' : Lottery) : Prop where
  rest : l' = { l with sold := l'.sold }
  within : l'.sold ≤ l.capacity

namespace SellsOn

theorem kind_eq (sells : l.SellsOn l') : l'.kind = l.kind := by
  rw [sells.rest]

theorem deadline_eq (sells : l.SellsOn l') : l'.deadline = l.deadline := by
  rw [sells.rest]

theorem capacity_eq (sells : l.SellsOn l') : l'.capacity = l.capacity := by
  rw [sells.rest]

theorem tried (sells : l.SellsOn l') {l'' : Lottery}
    (tried : l'.Tried (b.operation id) result l'') : l.SellsOn l'' := by
  unfold Bid.operation at tried
  cases tried with
  | refused => exact sells
  | issued granted =>
    obtain ⟨-, -, -, -, fits, -, rfl⟩ := issue_eq_ok_iff.mp granted
    rw [sells.capacity_eq] at fits
    refine ⟨?_, fits⟩
    rw [sells.rest]

end SellsOn

/-- How many numbers an attempt sold. -/
def Attempt.amount : Attempt → Nat
  | ⟨.issue _ _ amount _, .ok _⟩ => amount.toNat
  | _ => 0

theorem Tried.growth (tried : l.Tried operation result l') :
    l'.sold.toNat = l.sold.toNat + (Attempt.mk operation result).amount := by
  cases tried with
  | refused => cases operation <;> rfl
  | issued granted =>
    obtain ⟨-, -, -, sum, -, -, rfl⟩ := issue_eq_ok_iff.mp granted
    exact sum.symm
  | drawn granted => rw [sold_of_draw granted]; rfl
  | settled granted => rw [sold_of_settle granted]; rfl
  | voided granted => rw [sold_of_void granted]; rfl

/-- The numbers sold grow by what the granted purchases asked for. -/
theorem growth_after (l : Lottery) (operations : List Operation) :
    (l.after operations).sold.toNat =
      l.sold.toNat + ((l.attempts operations).map Attempt.amount).sum := by
  apply course_induction
    (motive := fun attempts l' => l'.sold.toNat = l.sold.toNat + (attempts.map Attempt.amount).sum) rfl
  intro attempts l' operation result l'' _ tried grown
  rw [tried.growth, grown, List.map_append, List.sum_append, Nat.add_assoc]
  simp

theorem sellsOn_after (within : l.sold ≤ l.capacity) (id : Key) (bids : List Bid) :
    l.SellsOn (l.after (bidding id bids)) := by
  apply course_induction (motive := fun _ l' => l.SellsOn l') ⟨rfl, within⟩
  intro attempts l' operation result l'' mem tried sells
  obtain ⟨b, -, rfl⟩ := List.mem_map.mp mem
  exact sells.tried tried

/-- Bids for which there is enough are all granted. -/
theorem granted_of_total_le (undrawn : l.kind = .undrawn) (timely : ∀ b ∈ bids, b.Timely l.deadline)
    (enough : l.sold.toNat + Bid.total bids ≤ l.capacity.toNat) (id : Key) :
    List.Forall₂ (Bid.Granted id) bids (l.attempts (bidding id bids)) ∧
      (l.after (bidding id bids)).sold.toNat = l.sold.toNat + Bid.total bids := by
  induction bids generalizing l with
  | nil => exact ⟨.nil, rfl⟩
  | cons b rest ih =>
    have total : Bid.total (b :: rest) = b.amount.toNat + Bid.total rest := rfl
    rw [total, ← Nat.add_assoc] at enough ⊢
    obtain ⟨t, l', granted, lottery, buyer, size, same, sold⟩ := perform_bid_of_le undrawn
      (timely b List.mem_cons_self) (Nat.le_trans (Nat.le_add_right _ _) enough) id
    rw [← sold] at enough ⊢
    have performed : (l.perform (b.operation id)).2 = l' := by rw [granted]
    -- The record behind the first bid has enough for the others, so the bids behind it are granted from there.
    have sells : l.SellsOn l' := ⟨same, UInt64.le_iff_toNat_le.mpr (Nat.le_of_add_right_le enough)⟩
    have timely' : ∀ c ∈ rest, c.Timely l'.deadline :=
      fun c mem => sells.deadline_eq ▸ timely c (List.mem_cons_of_mem _ mem)
    rw [← sells.capacity_eq] at enough
    obtain ⟨behind, grown⟩ := ih (sells.kind_eq.trans undrawn) timely' enough
    constructor
    · rw [bidding, List.map_cons, attempts, performed, granted]
      exact .cons ⟨t, rfl, lottery, buyer, size⟩ behind
    · change ((l.perform (b.operation id)).2.after (bidding id rest)).sold.toNat = _
      rw [performed, grown]

/-! ### Any order -/

/-- Both orders grant every bid a ticket for as many numbers as it asked for and leave the same record, so a
draw at any later time is the same. -/
structure SoldAlike (l : Lottery) (id : Key) (bids bids' : List Bid) : Prop where
  granted : List.Forall₂ (Bid.Granted id) bids (l.attempts (bidding id bids))
  granted' : List.Forall₂ (Bid.Granted id) bids' (l.attempts (bidding id bids'))
  record : l.after (bidding id bids) = l.after (bidding id bids')
  drawn : ∀ later id' sample slot, (l.after (bidding id bids ++ later)).draw id' sample slot =
    (l.after (bidding id bids' ++ later)).draw id' sample slot

/-- What comes of the bids in turn. A bid is refused if it asks for more than is left at its turn and for no
other reason; the bids behind a refused one fare as without it; the numbers sold grow by what was granted,
and they are always within the capacity. -/
structure SoldInTurn (l : Lottery) (id : Key) (bids : List Bid) : Prop where
  refused_iff : ∀ before b behind reason, bids = before ++ b :: behind →
    (((l.after (bidding id before)).perform (b.operation id)).1 = .error reason ↔
      l.capacity.toNat - (l.after (bidding id before)).sold.toNat < b.amount.toNat ∧
        reason = (l.after (bidding id before)).excess b)
  skipped : ∀ before b behind reason, bids = before ++ b :: behind →
    ((l.after (bidding id before)).perform (b.operation id)).1 = .error reason →
      ∃ others, l.attempts (bidding id bids) =
          l.attempts (bidding id before) ++ ⟨b.operation id, .error reason⟩ :: others ∧
        l.attempts (bidding id (before ++ behind)) = l.attempts (bidding id before) ++ others ∧
        l.after (bidding id bids) = l.after (bidding id (before ++ behind))
  growth : (l.after (bidding id bids)).sold.toNat =
    l.sold.toNat + ((l.attempts (bidding id bids)).map Attempt.amount).sum
  within : ∀ before behind, bids = before ++ behind → (l.after (bidding id before)).sold ≤ l.capacity

theorem soldAlike_of_perm (undrawn : l.kind = .undrawn) (within : l.sold ≤ l.capacity)
    (timely : ∀ b ∈ bids, b.Timely l.deadline) (reordered : bids.Perm bids')
    (enough : l.sold.toNat + Bid.total bids ≤ l.capacity.toNat) : l.SoldAlike id bids bids' := by
  have timely' : ∀ b ∈ bids', b.Timely l.deadline := fun b mem => timely b (reordered.mem_iff.mpr mem)
  have enough' : l.sold.toNat + Bid.total bids' ≤ l.capacity.toNat := by
    rwa [← Bid.total_perm reordered]
  obtain ⟨granted, grown⟩ := granted_of_total_le undrawn timely enough id
  obtain ⟨granted', grown'⟩ := granted_of_total_le undrawn timely' enough' id
  have record : l.after (bidding id bids) = l.after (bidding id bids') := by
    have sold : (l.after (bidding id bids)).sold = (l.after (bidding id bids')).sold := by
      rw [← UInt64.toNat_inj, grown, grown', Bid.total_perm reordered]
    rw [(sellsOn_after within id bids).rest, (sellsOn_after within id bids').rest, sold]
  exact ⟨granted, granted', record, fun later id' sample slot => by
    rw [after_append, after_append, record]⟩

theorem soldInTurn (undrawn : l.kind = .undrawn) (within : l.sold ≤ l.capacity)
    (timely : ∀ b ∈ bids, b.Timely l.deadline) : l.SoldInTurn id bids := by
  constructor
  case refused_iff =>
    rintro before b behind reason rfl
    have sells := sellsOn_after within id before
    have timely' : b.Timely (l.after (bidding id before)).deadline :=
      sells.deadline_eq ▸ timely b (by simp)
    rw [bid_refused_iff (sells.kind_eq.trans undrawn) timely', sells.capacity_eq]
  case skipped =>
    rintro before b behind reason rfl refused
    obtain ⟨attempts, record⟩ := attempts_of_refused refused (bidding id behind)
    refine ⟨(l.after (bidding id before)).attempts (bidding id behind), ?_, ?_, ?_⟩
    · rw [← attempts, bidding, List.map_append, List.map_cons]
      rfl
    · rw [← attempts_append, bidding, List.map_append]
      rfl
    · rw [bidding, bidding, List.map_append, List.map_append, List.map_cons]
      exact record
  case growth => exact growth_after l _
  case within =>
    rintro before behind rfl
    exact (sellsOn_after within id before).within

/-- The order of the bids does not matter as long as there is enough for all of them; and in any order a bid
is refused only for what is left at its turn, and only the granted ones count. -/
theorem sales_independent_of_order (read : decode bytes = .ok l) (undrawn : l.kind = .undrawn)
    (timely : ∀ b ∈ bids, b.Timely l.deadline) (reordered : bids.Perm bids') (id : Key) :
    (l.sold.toNat + Bid.total bids ≤ l.capacity.toNat → l.SoldAlike id bids bids') ∧
      l.SoldInTurn id bids' := by
  have within := (decode_eq_ok_iff.mp read).1.2
  exact ⟨soldAlike_of_perm undrawn within timely reordered,
    soldInTurn undrawn within fun b mem => timely b (reordered.mem_iff.mpr mem)⟩

end Lottery

/-- The buyer and the authority bid for all of the sample lottery. -/
def Sample.bids : List Bid :=
  [⟨buyer, 40, 30⟩, ⟨authority, 60, 31⟩]

/-- Behind the buyer the authority bids for one number more than is left, and the buyer for as many as there
are in 64 bits. -/
def Sample.greedyBids : List Bid :=
  [⟨buyer, 40, 30⟩, ⟨authority, 61, 31⟩, ⟨buyer, 0xffffffffffffffff, 32⟩]

/-- The bids for all of the sample lottery are granted in either order. Of the greedy ones the second is
refused for the capacity and the third for the sum. -/
theorem Lottery.sales_independent_of_order_for_sample :
    Sample.launched.SoldAlike Sample.lottery Sample.bids Sample.bids.reverse ∧
      ((Sample.launched.after (bidding Sample.lottery (Sample.greedyBids.take 1))).perform
          (.issue Sample.lottery Sample.authority 61 31)).1 = .error .capacityExceeded ∧
        ((Sample.launched.after (bidding Sample.lottery (Sample.greedyBids.take 2))).perform
          (.issue Sample.lottery Sample.buyer 0xffffffffffffffff 32)).1 =
            .error .arithmeticOverflow := by
  have read : decode Sample.launched.encode = .ok Sample.launched :=
    decode_eq_ok_iff.mpr ⟨by decide, rfl⟩
  have timely : ∀ b ∈ Sample.bids ++ Sample.greedyBids, b.Timely Sample.launched.deadline := by
    have each : ∀ b ∈ Sample.bids ++ Sample.greedyBids, b.amount ≠ 0 ∧ b.slot < 50 := by decide
    exact fun b mem => ⟨(each b mem).1, (each b mem).2⟩
  obtain ⟨alike, -⟩ := sales_independent_of_order read rfl
    (fun b mem => timely b (List.mem_append_left _ mem)) (List.reverse_perm Sample.bids).symm
    Sample.lottery
  obtain ⟨-, inTurn⟩ := sales_independent_of_order read rfl
    (fun b mem => timely b (List.mem_append_right _ mem)) (.refl Sample.greedyBids) Sample.lottery
  refine ⟨alike (by decide), ?_, ?_⟩
  · exact (inTurn.refused_iff _ ⟨Sample.authority, 61, 31⟩ (Sample.greedyBids.drop 2) _ rfl).mpr
      ⟨by decide +kernel, by decide +kernel⟩
  · exact (inTurn.refused_iff _ ⟨Sample.buyer, 0xffffffffffffffff, 32⟩ [] _ rfl).mpr
      ⟨by decide +kernel, by decide +kernel⟩

end RangeLottery
