import Mathlib.Data.Int.CardIntervalMod
import Mathlib.SetTheory.Cardinal.Finite
import RangeLottery.Proofs.Record.Course
import RangeLottery.Proofs.Record.FeeShare
import RangeLottery.Proofs.Record.Tiling

/-!
The fairness of the winning number. The digest of the checkpoint and the lottery is cut to a word of 128
bits, and the winning number is the remainder of that word by the numbers sold, cut to 64 bits. Main
statement: the second cut loses nothing, and of all the words each number sold gets the same share, or one
word more if it is among those that the last, incomplete round of the numbers reaches. So a ticket gets its
part in proportion to its size, wherever it lies and whoever has the others.
-/

namespace RangeLottery

namespace Ticket

variable {sold number : UInt64} {t : Ticket} {tickets tickets' : List Ticket}

/-- The tickets hold each number below `sold` once, and they hold no other number. -/
def HeldOnce (tickets : List Ticket) (sold : UInt64) : Prop :=
  ∀ number, tickets.countP (·.contains number) = if number < sold then 1 else 0

theorem Tiles.heldOnce (tiles : Tiles 0 tickets sold) : HeldOnce tickets sold := by
  intro number
  rw [List.countP_eq_length_filter]
  split
  · rename_i below
    obtain ⟨t, alone⟩ := tiles.filter_contains UInt64.zero_le below
    rw [alone, List.length_singleton]
  · rename_i beyond
    rw [List.length_eq_zero_iff, List.filter_eq_nil_iff]
    intro t mem held
    exact beyond (UInt64.lt_of_lt_of_le (contains_iff.mp held).2 (tiles.bounds mem).2.2)

/-- The order of the tickets does not matter. -/
theorem HeldOnce.perm (once : HeldOnce tickets sold) (perm : tickets.Perm tickets') :
    HeldOnce tickets' sold := by
  intro number
  rw [← perm.countP_eq, once number]

theorem HeldOnce.number_lt (once : HeldOnce tickets sold) (mem : t ∈ tickets)
    (held : t.contains number = true) : number < sold := by
  have counted : 0 < tickets.countP (·.contains number) := List.countP_pos_iff.mpr ⟨t, mem, held⟩
  by_contra beyond
  rw [once number, if_neg beyond] at counted
  exact Nat.lt_irrefl 0 counted

/-- A ticket that holds a number is the only one that does. -/
theorem HeldOnce.alone_iff (once : HeldOnce tickets sold) (mem : t ∈ tickets) :
    tickets.filter (·.contains number) = [t] ↔ t.contains number = true := by
  constructor
  · intro alone
    exact (mem_of_alone alone).2
  · intro held
    have counted := once number
    rw [if_pos (once.number_lt mem held), List.countP_eq_length_filter,
      List.length_eq_one_iff] at counted
    obtain ⟨only, alone⟩ := counted
    rw [alone, eq_of_alone alone mem held]

end Ticket

namespace WinningNumber

variable {sold number : UInt64} {word : BitVec 128} {t t' : Ticket} {tickets : List Ticket}

/-! ### Remainders -/

section Remainders

open Finset

variable {modulus start stop : Nat}

/-- Of `total` values in a row, those with a given remainder: one from each round of the remainders. -/
theorem card_remainder {remainder : Nat} (total : Nat) (below : remainder < modulus) :
    card {value ∈ range total | value % modulus = remainder} =
      total / modulus + if remainder < total % modulus then 1 else 0 := by
  have positive : 0 < modulus := Nat.zero_lt_of_lt below
  have counted := Nat.count_modEq_card total positive remainder
  simp only [Nat.ModEq, Nat.mod_eq_of_lt below] at counted
  rw [← Nat.count_eq_card_filter_range, counted]

/-- Of `total` values in a row, those with a remainder in a range, counted by their remainders. -/
theorem card_remainder_between (total : Nat)
    (below : ∀ remainder, start ≤ remainder → remainder < stop → remainder < modulus) :
    card {value ∈ range total | start ≤ value % modulus ∧ value % modulus < stop} =
      (stop - start) * (total / modulus) + (min stop (total % modulus) - start) := by
  set within := {value ∈ range total | start ≤ value % modulus ∧ value % modulus < stop} with within_eq
  have landed : Set.MapsTo (· % modulus) (within : Set Nat) (Ico start stop) := by
    intro value mem
    exact mem_coe.mpr (mem_Ico.mpr (mem_filter.mp (mem_coe.mp mem)).2)
  have each : ∀ remainder ∈ Ico start stop, card {value ∈ within | value % modulus = remainder} =
      total / modulus + if remainder < total % modulus then 1 else 0 := by
    intro remainder mem
    obtain ⟨low, high⟩ := mem_Ico.mp mem
    rw [← card_remainder total (below remainder low high), within_eq, filter_filter]
    refine congrArg card (filter_congr fun value _ => and_iff_right_of_imp ?_)
    rintro rfl
    exact ⟨low, high⟩
  -- The remainders in the range are taken one by one; those of the incomplete round are the lowest.
  calc card within
    _ = ∑ remainder ∈ Ico start stop,
          (total / modulus + if remainder < total % modulus then 1 else 0) := by
      rw [card_eq_sum_card_fiberwise landed, sum_congr rfl each]
    _ = (stop - start) * (total / modulus) + card {remainder ∈ Ico start stop |
          remainder < total % modulus} := by
      rw [sum_add_distrib, sum_const, Nat.card_Ico, Nat.nsmul_eq_mul, card_filter]
    _ = (stop - start) * (total / modulus) + (min stop (total % modulus) - start) := by
      rw [Ico_filter_lt, Nat.card_Ico]

/-- The words are the values below a power of two. -/
def spelling (width : Nat) (p : Nat → Prop) :
    {word : BitVec width // p word.toNat} ≃ {value : Nat // value < 2 ^ width ∧ p value} where
  toFun word := ⟨word.1.toNat, word.1.isLt, word.2⟩
  invFun value := ⟨BitVec.ofNatLT value.1 value.2.1, value.2.2⟩
  left_inv _ := rfl
  right_inv _ := rfl

theorem card_words (width : Nat) (p : Nat → Prop) [DecidablePred p] :
    Nat.card {word : BitVec width // p word.toNat} = card {value ∈ range (2 ^ width) | p value} := by
  rw [Nat.card_congr (spelling width p)]
  exact Nat.subtype_card _ fun value => by rw [mem_filter, mem_range]

end Remainders

/-! ### The reduction of a word -/

/-- The mix as a word of 128 bits. -/
def mixWord (hash lottery : Key) : BitVec 128 :=
  BitVec.ofNat 128 (mix hash lottery)

/-- The remainder of a word by the numbers sold, of which the low 64 bits are kept. -/
def reduce (word : BitVec 128) (sold : UInt64) : UInt64 :=
  UInt64.ofBitVec ((word % Amount.widen sold).setWidth 64)

theorem toNat_mixWord (hash lottery : Key) : (mixWord hash lottery).toNat = mix hash lottery :=
  Nat.mod_eq_of_lt (mix_lt hash lottery)

/-- The low bits are the whole remainder. -/
theorem toNat_reduce (positive : sold ≠ 0) : (reduce word sold).toNat = word.toNat % sold.toNat := by
  have below := Nat.mod_lt word.toNat (Amount.toNat_pos_iff.mpr positive)
  rw [reduce, UInt64.toNat_ofBitVec, BitVec.toNat_setWidth, BitVec.toNat_umod, Amount.toNat_widen]
  exact Nat.mod_eq_of_lt (Nat.lt_trans below sold.toNat_lt)

theorem narrow?_remainder (positive : sold ≠ 0) :
    Amount.narrow? (word % Amount.widen sold) = some (reduce word sold) := by
  rw [Amount.narrow?, Amount.ofNat?_eq_some_iff, toNat_reduce positive, BitVec.toNat_umod,
    Amount.toNat_widen]

theorem derive_eq_reduce (positive : sold ≠ 0) (hash lottery : Key) :
    derive hash lottery sold = .ok (reduce (mixWord hash lottery) sold) := by
  rw [derive_eq_ok_iff, toNat_reduce positive, toNat_mixWord]
  exact ⟨positive, rfl⟩

/-! ### Chances -/

/-- How many words are reduced to `number`. -/
noncomputable def hits (sold number : UInt64) : Nat :=
  Nat.card {word : BitVec 128 // reduce word sold = number}

/-- How many words are reduced to a number that `t` holds, and of the tickets `t` alone. -/
noncomputable def chances (sold : UInt64) (tickets : List Ticket) (t : Ticket) : Nat :=
  Nat.card {word : BitVec 128 // tickets.filter (·.contains (reduce word sold)) = [t]}

theorem hits_eq (below : number < sold) :
    hits sold number =
      2 ^ 128 / sold.toNat + if number.toNat < 2 ^ 128 % sold.toNat then 1 else 0 := by
  have positive : sold ≠ 0 := by
    rintro rfl
    exact UInt64.not_lt.mpr UInt64.zero_le below
  rw [← card_remainder _ (UInt64.lt_iff_toNat_lt.mp below), ← card_words]
  simp only [hits, ← UInt64.toNat_inj, toNat_reduce positive]

section Tickets

variable (positive : sold ≠ 0) (once : Ticket.HeldOnce tickets sold) (mem : t ∈ tickets)

include positive once mem

theorem chances_eq :
    chances sold tickets t =
      (t.stop.toNat - t.start.toNat) * (2 ^ 128 / sold.toNat) +
        (min t.stop.toNat (2 ^ 128 % sold.toNat) - t.start.toNat) := by
  have below : ∀ number, t.start.toNat ≤ number → number < t.stop.toNat → number < sold.toNat := by
    -- Such a number is held by the ticket, so it is one of those that are held at all.
    intro number low high
    have exact : (UInt64.ofNat number).toNat = number :=
      UInt64.toNat_ofNat_of_lt' (Nat.lt_trans high t.stop.toNat_lt)
    have held : t.contains (.ofNat number) = true := by
      rw [Ticket.contains_iff, UInt64.le_iff_toNat_le, UInt64.lt_iff_toNat_lt, exact]
      exact ⟨low, high⟩
    rw [← exact]
    exact UInt64.lt_iff_toNat_lt.mp (once.number_lt mem held)
  rw [← card_remainder_between _ below, ← card_words]
  simp only [chances, once.alone_iff mem, Ticket.contains_iff, UInt64.le_iff_toNat_le,
    UInt64.lt_iff_toNat_lt, toNat_reduce positive]

theorem chances_bounds :
    (t.stop.toNat - t.start.toNat) * (2 ^ 128 / sold.toNat) ≤ chances sold tickets t ∧
      chances sold tickets t ≤ (t.stop.toNat - t.start.toNat) * (2 ^ 128 / sold.toNat + 1) := by
  rw [chances_eq positive once mem]
  refine ⟨Nat.le_add_right _ _, ?_⟩
  rw [Nat.mul_add_one]
  exact Nat.add_le_add_left (Nat.sub_le_sub_right (Nat.min_le_left _ _) _) _

theorem chances_le_of_size_eq (mem' : t' ∈ tickets) (same : t.size = t'.size) :
    chances sold tickets t ≤ chances sold tickets t' + t.size.toNat := by
  have most := (chances_bounds positive once mem).2
  have least := (chances_bounds positive once mem').1
  rw [← Ticket.toNat_size_eq_sub] at most least
  rw [Nat.mul_add_one] at most
  rw [← same] at least
  exact Nat.le_trans most (Nat.add_le_add_right least _)

end Tickets

/-- With `sold` numbers to choose from, the winning number is the remainder of the mix, and no number and
no ticket is favoured. -/
structure Fair (sold : UInt64) : Prop where
  derived : ∀ hash lottery, derive hash lottery sold = .ok (reduce (mixWord hash lottery) sold)
  mixed : ∀ hash lottery, (mixWord hash lottery).toNat =
    Bytes.toNat ((Sha256.hash (hash.bytes ++ lottery.bytes)).bytes.take 16)
  remainder : ∀ word, (reduce word sold).toNat = word.toNat % sold.toNat
  narrowed : ∀ word, Amount.narrow? (word % Amount.widen sold) = some (reduce word sold)
  numbers : ∀ number, number < sold → hits sold number =
    2 ^ 128 / sold.toNat + if number.toNat < 2 ^ 128 % sold.toNat then 1 else 0
  tickets : ∀ tickets, Ticket.HeldOnce tickets sold → ∀ t ∈ tickets,
    (t.stop.toNat - t.start.toNat) * (2 ^ 128 / sold.toNat) ≤ chances sold tickets t ∧
      chances sold tickets t ≤ (t.stop.toNat - t.start.toNat) * (2 ^ 128 / sold.toNat + 1)
  alike : ∀ tickets, Ticket.HeldOnce tickets sold → ∀ t ∈ tickets, ∀ t' ∈ tickets,
    t.size = t'.size → chances sold tickets t ≤ chances sold tickets t' + t.size.toNat

/-- Whatever number of numbers was sold, the reduction of the mix to one of them is fair. -/
theorem reduction_fair (positive : sold ≠ 0) : Fair sold where
  derived := derive_eq_reduce positive
  mixed := toNat_mixWord
  remainder _ := toNat_reduce positive
  narrowed _ := narrow?_remainder positive
  numbers _ := hits_eq
  tickets _ once _ mem := chances_bounds positive once mem
  alike _ once _ mem _ mem' := chances_le_of_size_eq positive once mem mem'

/-- Of sixty numbers the first sixteen have one word more than the others. A ticket has its part wherever it
lies, and in whatever order the tickets are listed. -/
theorem reduction_fair_for_sixty :
    let first : Ticket := ⟨Sample.lottery, Sample.buyer, 0, 20⟩
    let second : Ticket := ⟨Sample.lottery, Sample.authority, 20, 40⟩
    let third : Ticket := ⟨Sample.lottery, Sample.buyer, 40, 60⟩
    Ticket.HeldOnce [third, first, second] 60 ∧
      hits 60 15 = 5671372782015641057722910123862803525 ∧
      hits 60 16 = 5671372782015641057722910123862803524 ∧
      20 * 5671372782015641057722910123862803524 ≤ chances 60 [third, first, second] second ∧
      chances 60 [third, first, second] first ≤
        chances 60 [third, first, second] third + first.size.toNat := by
  intro first second third
  have tiles : Ticket.Tiles 0 [first, second, third] 60 :=
    ⟨rfl, by decide, rfl, by decide, rfl, by decide, rfl⟩
  have once : Ticket.HeldOnce [third, first, second] 60 := tiles.heldOnce.perm (by decide)
  have fair : Fair 60 := reduction_fair (by decide)
  have share : 2 ^ 128 / (60 : UInt64).toNat = 5671372782015641057722910123862803524 := by
    decide +kernel
  have rest : 2 ^ 128 % (60 : UInt64).toNat = 16 := by decide +kernel
  have bounds := fair.tickets _ once second (by simp)
  rw [share] at bounds
  refine ⟨once, ?_, ?_, bounds.1, fair.alike _ once first (by simp) third (by simp) (by decide)⟩
  · rw [fair.numbers 15 (by decide), share, rest]
    rfl
  · rw [fair.numbers 16 (by decide), share, rest]
    rfl

end WinningNumber

end RangeLottery
