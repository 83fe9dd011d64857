import RangeLottery.Proofs.Record.Payout
import RangeLottery.Proofs.Run.Deposits
import RangeLottery.Proofs.Run.Tickets

/-!
The payout of a lottery. A lottery is settled at most once in a run. The settlement pays the holder of
the one ticket with the winning number and the fee account of the lottery, and empties the vault; the
only other account that it changes is the record of the lottery.
-/

namespace RangeLottery

/-! ### At most once -/

/-- Nothing moves a settled lottery. -/
theorem Lottery.Moves.eq_of_settled {b : Book} {slot : UInt64} {id : Key} {l : Lottery}
    {after : Option Lottery} (moves : Lottery.Moves b slot id (some l) after)
    (settled : l.kind = .settled) : after = some l := by
  cases moves with
  | kept => rfl
  | issued granted =>
    have undrawn := (Lottery.issue_eq_ok_iff.mp granted).1
    cases settled.symm.trans undrawn
  | drawn _ granted =>
    have undrawn := (Lottery.draw_eq_ok_iff.mp granted).1.1
    cases settled.symm.trans undrawn
  | settled granted =>
    have drawn := (Lottery.settle_eq_ok_iff.mp granted).1
    cases settled.symm.trans drawn
  | voided granted =>
    have undrawn := (Lottery.void_eq_ok_iff.mp granted).1
    cases settled.symm.trans undrawn

theorem Book.settled_through {b : Book} {key : Key} {l : Lottery}
    (recorded : (b.account key).lottery? = some l) (settled : l.kind = .settled)
    (moments : List Moment) : ((b.through moments).account key).lottery? = some l := by
  induction moments using List.reverseRecOn with
  | nil => exact recorded
  | append_singleton earlier m ih =>
    have moves := m.moves (b.through earlier) key
    rw [ih] at moves
    rw [through_concat]
    exact moves.eq_of_settled settled

/-- A settlement is granted to drawn lotteries only and leaves them settled. -/
theorem Moment.Grants.kinds {m : Moment} {b : Book} {key : Key} (granted : m.Grants b .settle key) :
    ∃ l, (b.account key).lottery? = some l ∧ l.kind = .drawn ∧
      ((m.outcome b).book.account key).lottery? = some { l with kind := .settled } := by
  obtain ⟨a, l, l', t, payout, rfl, effect⟩ := granted.settlement
  obtain ⟨drawn, -, -, -, rfl⟩ := Lottery.settle_eq_ok_iff.mp effect.granted.settled
  refine ⟨l, (m.lottery?_book b _).symm.trans effect.granted.before, drawn, ?_⟩
  rw [effect.lotteries, if_pos rfl]

/-- A lottery that was settled is not settled again. -/
theorem Moment.Grants.not_again {b : Book} {before between : List Moment} {m later : Moment}
    {key : Key} (granted : m.Grants (b.through before) .settle key) :
    ¬ later.Grants (b.through (before ++ m :: between)) .settle key := by
  intro again
  obtain ⟨l, -, -, settled⟩ := granted.kinds
  rw [← Book.through_concat] at settled
  have still := Book.settled_through settled rfl between
  rw [← Book.through_append, List.append_assoc, List.singleton_append] at still
  obtain ⟨l', recorded, drawn, -⟩ := again.kinds
  rw [still] at recorded
  cases recorded
  cases drawn

/-! ### To the rightful holder -/

/-- The accounts of a settlement and its payout: `l` is the lottery at `key` before it, `t` the ticket
that is paid and `pool` what the vault held. -/
structure Book.Settled (b c : Book) (entries : List Entry) (key : Key) (l : Lottery) (t : Ticket)
    (pool : UInt64) : Prop where
  drawn : (b.account key).lottery? = some l ∧ l.kind = .drawn
  settled : (c.account key).lottery? = some { l with kind := .settled }
  ticket : ∃ id, entries[6]?.map Entry.key = some id ∧ (b.account id).ticket? = some t ∧
    t.lottery = key ∧ t.contains l.number = true ∧
      ∀ id' t', (b.account id').ticket? = some t' → t'.lottery = key →
        t'.contains l.number = true → id' = id
  vault : entries[3]?.map Entry.key = some l.vault
  vault_held : (b.account l.vault).tokens? =
    some ⟨l.mint, (Address.custody key).address, pool⟩
  feeAccount : entries[4]?.map Entry.key = some l.feeAccount
  prizeAccount : entries[5]?.map Entry.key = some (Address.associated t.buyer l.mint)
  prize_before : ((b.account (Address.associated t.buyer l.mint)).data = [] ∧
      (b.account (Address.associated t.buyer l.mint)).balance = 0) ∨ ∃ amount,
    (b.account (Address.associated t.buyer l.mint)).tokens? = some ⟨l.mint, t.buyer, amount⟩
  prize_after : ∃ amount,
    (c.account (Address.associated t.buyer l.mint)).tokens? = some ⟨l.mint, t.buyer, amount⟩

/-- The vault pays the fee, rounded down, into `collector` and the rest of its `pool` into `prize`, and
nothing else is paid. -/
structure Book.PaysOut (b c : Book) (vault prize collector : Key) (pool : Nat) : Prop where
  vault_emptied : (c.account vault).balance = 0
  prize_paid : (c.account prize).balance = (b.account prize).balance + (pool - pool * 500 / 10000) +
    if prize = collector then pool * 500 / 10000 else 0
  fee_paid : (c.account collector).balance = (b.account collector).balance + pool * 500 / 10000 +
    if prize = collector then pool - pool * 500 / 10000 else 0
  others_kept : ∀ other, other ≠ vault → other ≠ prize → other ≠ collector →
    (c.account other).tokens? = (b.account other).tokens?

namespace Settlement.Effect

variable {entries : List Entry} {a : Settlement.Accounts} {l l' : Lottery} {t : Ticket}
  {payout : Payout} {b c : Book}

theorem prize_eq (effect : Settlement.Effect entries a l l' t payout b c) :
    a.prizeAccount.key = Address.associated t.buyer l.mint := by
  rw [effect.prize_address, effect.granted.winner, effect.granted.mint]

/-- The shares of the pool. -/
theorem shares (effect : Settlement.Effect entries a l l' t payout b c) :
    payout.fee.toNat = a.vaultTokens.amount.toNat * 500 / 10000 ∧
      payout.winner.toNat + payout.fee.toNat = a.vaultTokens.amount.toNat := by
  obtain ⟨-, -, -, divided, -⟩ := Lottery.settle_eq_ok_iff.mp effect.granted.settled
  exact Payout.split_eq_ok_iff.mp divided

theorem paysOut (effect : Settlement.Effect entries a l l' t payout b c)
    (prize : a.prizeAccount.key ≠ l.vault) (fee : l.feeAccount ≠ l.vault) :
    b.PaysOut c l.vault a.prizeAccount.key l.feeAccount a.vaultTokens.amount.toNat := by
  obtain ⟨fee_eq, sum⟩ := effect.shares
  have moved := effect.balance
  rw [effect.granted.vault, effect.granted.feeAccount] at moved
  have pool : (b.account l.vault).balance = a.vaultTokens.amount.toNat := by
    rw [← effect.granted.vault]
    exact Account.balance_of_tokens? effect.loaded.vault_held
  constructor
  · have here := moved l.vault
    rw [if_pos rfl, if_neg prize.symm, if_neg fee.symm] at here
    omega
  · have here := moved a.prizeAccount.key
    rw [if_neg prize, if_pos rfl] at here
    by_cases one : a.prizeAccount.key = l.feeAccount
    · rw [if_pos one] at here ⊢
      omega
    · rw [if_neg one] at here ⊢
      omega
  · have here := moved l.feeAccount
    rw [if_neg fee, if_pos rfl] at here
    by_cases one : a.prizeAccount.key = l.feeAccount
    · rw [if_pos one.symm] at here
      rw [if_pos one]
      omega
    · rw [if_neg (Ne.symm one)] at here
      rw [if_neg one]
      omega
  · intro other notVault notPrize notFee
    by_cases record : other = a.lottery.key
    · have before := effect.granted.before
      have after := effect.lotteries a.lottery.key
      rw [if_pos rfl] at after
      rw [record, Account.tokens?_eq_none_of_lottery? before,
        Account.tokens?_eq_none_of_lottery? after]
    · refine (effect.confined.holding other ?_).tokens?_eq
      rw [effect.granted.vault, effect.granted.feeAccount]
      simp [record, notVault, notPrize, notFee]

theorem settled (effect : Settlement.Effect entries a l l' t payout b c) {earlier : List Moment}
    (guarded : b.Guarded earlier) {sales : List Sale} {holders : List (Key × Ticket)} {sold : UInt64}
    (partition : b.Partition sales a.lottery.key sold holders) :
    b.Settled c entries a.lottery.key l t a.vaultTokens.amount := by
  obtain ⟨drawn, own, holds, -, rfl⟩ := Lottery.settle_eq_ok_iff.mp effect.granted.settled
  constructor
  · exact ⟨effect.granted.before, drawn⟩
  · rw [effect.lotteries, if_pos rfl]
  · refine ⟨a.ticket.key, by rw [effect.loaded.ticket]; rfl, effect.granted.ticket, own, holds, ?_⟩
    intro id' t' recorded own' holds'
    have listed := (partition.listed a.ticket.key t).mpr ⟨effect.granted.ticket, own⟩
    have listed' := (partition.listed id' t').mpr ⟨recorded, own'⟩
    exact congrArg Prod.fst (partition.tiles.holder_unique listed' listed holds' holds)
  · rw [effect.loaded.vault, ← effect.granted.vault]
    rfl
  · obtain ⟨_, held⟩ := guarded.vault _ _ effect.granted.before
    have found := effect.loaded.vault_held
    rw [effect.granted.vault, held] at found
    rw [held, ← Option.some.inj found]
  · rw [effect.loaded.feeAccount, ← effect.granted.feeAccount]
    rfl
  · rw [effect.loaded.prizeAccount, ← effect.prize_eq]
    rfl
  · rw [← effect.prize_eq, ← effect.granted.mint, ← effect.granted.winner]
    rcases effect.prize_before with vacant | held
    · have unheld := Account.tokens?_eq_none_of_vacant vacant
      exact .inl ⟨vacant, Account.balance_of_tokens?_eq_none unheld⟩
    · exact .inr held
  · rw [← effect.prize_eq, ← effect.granted.mint, ← effect.granted.winner]
    exact effect.prize_held

end Settlement.Effect

theorem Book.Partition.book {b : Book} {sales : List Sale} {key : Key} {sold : UInt64}
    {holders : List (Key × Ticket)} (partition : b.Partition sales key sold holders) (m : Moment) :
    (m.book b).Partition sales key sold holders :=
  partition.congr fun id _ _ => by rw [m.ticket?_book]

/-- In every run a lottery is settled at most once. The settlement finds it drawn and leaves it
settled, it is granted for the one ticket of the lottery with the winning number, and unless an account
that is paid is the vault itself, the holder of the ticket and the fee account have all that the vault
held. -/
theorem payout_exactly_once {b : Book} (unclaimed : b.Unclaimed) {before : List Moment} {m : Moment}
    {key : Key} (granted : m.Grants (b.through before) .settle key) :
    (∀ between later, ¬ Moment.Grants later (b.through (before ++ m :: between)) .settle key) ∧
    ∃ l t pool,
      (m.book (b.through before)).Settled (b.through (before ++ [m])) m.step.call.accounts key l t
        pool ∧
      (Address.associated t.buyer l.mint ≠ l.vault → l.feeAccount ≠ l.vault →
        (m.book (b.through before)).PaysOut (b.through (before ++ [m])) l.vault
          (Address.associated t.buyer l.mint) l.feeAccount pool.toNat) := by
  refine ⟨fun between later => granted.not_again, ?_⟩
  obtain ⟨a, l, l', t, payout, rfl, effect⟩ := granted.settlement
  have guarded := (Book.guarded_through unclaimed before).book m
  obtain ⟨holders, partition⟩ := Book.partition_through unclaimed before a.lottery.key
  rw [Book.through_concat]
  refine ⟨l, t, a.vaultTokens.amount, effect.settled guarded (partition.book m), ?_⟩
  rw [← effect.prize_eq]
  exact effect.paysOut

/-- The authority settles the sample lottery at slot 61. -/
def Sample.settlement : Moment where
  hashes? := none
  step := {
    slot := 61
    call := {
      program := Known.lotteryProgram
      accounts := [.mutable lottery, .mutableSigner authority, .reading custody, .mutable vault,
        .mutable feeAccount, .mutable prizeAccount, .reading ticket, .reading buyer,
        .reading mint] ++ programs
      data := Request.settle.encode } }

/-- The buyer of the sample lottery has the winning number and is paid thirty-eight of forty tokens. -/
theorem payout_exactly_once_after_draw :
    Sample.settlement.Grants (Sample.book.through [Sample.opening, Sample.purchase, Sample.drawing])
      .settle Sample.lottery ∧
    ∃ l t, l.vault = Sample.vault ∧ Address.associated t.buyer l.mint = Sample.prizeAccount ∧
      Sample.drawn.Settled (Sample.settlement.outcome Sample.drawn).book
        Sample.settlement.step.call.accounts Sample.lottery l t 40 ∧
      Sample.drawn.PaysOut (Sample.settlement.outcome Sample.drawn).book Sample.vault
        Sample.prizeAccount Sample.feeAccount 40 := by
  have granted : Sample.settlement.Grants
      (Sample.book.through [Sample.opening, Sample.purchase, Sample.drawing]) .settle
      Sample.lottery := by
    rw [Sample.through_drawing]
    exact ⟨by decide +kernel, by decide +kernel, rfl⟩
  obtain ⟨-, l, t, pool, settled, paid⟩ := payout_exactly_once Sample.unclaimed granted
  have found : Sample.settlement.book Sample.drawn = Sample.drawn := rfl
  rw [Book.through_concat, Sample.through_drawing, found] at settled paid
  have recorded : (Sample.drawn.account Sample.lottery).lottery? =
      some { Sample.launched with kind := .drawn, number := 19, sold := 40 } := by
    decide +kernel
  have same := Option.some.inj (recorded.symm.trans settled.drawn.1)
  have prize : Address.associated t.buyer l.mint = Sample.prizeAccount :=
    (Option.some.inj settled.prizeAccount).symm
  have vault : l.vault = Sample.vault := by rw [← same]; rfl
  have fee : l.feeAccount = Sample.feeAccount := by rw [← same]; rfl
  have pool_eq : pool = 40 := by
    have held : (Sample.drawn.account Sample.vault).tokens? =
        some ⟨Sample.mint, Sample.custody, 40⟩ := by
      decide +kernel
    have held' := settled.vault_held
    rw [vault, held] at held'
    exact (congrArg TokenAccount.amount (Option.some.inj held')).symm
  have paid := paid (by rw [prize, vault]; decide +kernel) (by rw [fee, vault]; decide +kernel)
  rw [vault, prize, fee, pool_eq] at paid
  rw [pool_eq] at settled
  exact ⟨granted, l, t, vault, prize, settled, paid⟩

end RangeLottery
