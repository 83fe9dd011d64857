import RangeLottery.Proofs.Run.Moment

/-!
The deposits of a lottery. From its opening until it is settled, the vault of a lottery is a token
account of its custody address and holds what it held at the opening and one token for each number
sold. The lotteries of a ledger share the token program and may be named in one another's steps, so the
invariant says who owns the token accounts that the records name: no signer owns a vault, and no vault
is shared.
-/

namespace RangeLottery

/-- The key signs the step of the moment. -/
def Moment.SignedBy (m : Moment) (key : Key) : Prop :=
  ∃ e ∈ m.step.call.accounts, e.signer = true ∧ e.key = key

/-- The token accounts that the records name, and who bought the tickets. -/
structure Book.Guarded (c : Book) (moments : List Moment) : Prop where
  vault : ∀ key l, (c.account key).lottery? = some l → ∃ amount,
    (c.account l.vault).tokens? = some ⟨l.mint, (Address.custody key).address, amount⟩
  feeAccount : ∀ key l, (c.account key).lottery? = some l → ∃ amount,
    (c.account l.feeAccount).tokens? = some ⟨l.mint, Known.feeCollector, amount⟩
  buyer : ∀ id t, (c.account id).ticket? = some t → ∃ m ∈ moments, m.SignedBy t.buyer

theorem Opening.Effect.named {slot capacity deadline : UInt64} {entries : List Entry}
    {a : Opening.Accounts} {l : Lottery} {b c : Book}
    (effect : Opening.Effect slot capacity deadline entries a l b c) :
    (∃ amount, (c.account l.vault).tokens? =
      some ⟨l.mint, (Address.custody a.lottery.key).address, amount⟩) ∧
    ∃ amount, (c.account l.feeAccount).tokens? = some ⟨l.mint, Known.feeCollector, amount⟩ := by
  have vault_held := effect.vault_held
  have feeAccount_held := effect.feeAccount_held
  rw [effect.checked.custody] at vault_held
  rw [effect.checked.feeCollector] at feeAccount_held
  obtain ⟨-, -, rfl⟩ := Lottery.launch_eq_ok_iff.mp effect.granted
  exact ⟨vault_held, feeAccount_held⟩

/-- In every run, vaults belong to custody addresses, fee accounts to the fee collector and tickets to
signers. -/
theorem Book.guarded_through {b : Book} (unclaimed : b.Unclaimed) (moments : List Moment) :
    (b.through moments).Guarded moments := by
  induction moments using List.reverseRecOn with
  | nil =>
    constructor
    · intro key l recorded
      exact absurd (Account.lottery?_eq_some_iff.mp recorded).1 (unclaimed key)
    · intro key l recorded
      exact absurd (Account.lottery?_eq_some_iff.mp recorded).1 (unclaimed key)
    · intro id t recorded
      exact absurd (Account.ticket?_eq_some_iff.mp recorded).1 (unclaimed id)
  | append_singleton earlier m guarded =>
    rw [through_concat]
    have lasting := m.lasting (b.through earlier)
    constructor
    · intro key l recorded
      rcases Moment.lottery_cases recorded with ⟨l₀, before, same⟩ | ⟨_, _, a, rfl, effect⟩
      · rw [same.vault_eq, same.mint_eq]
        exact lasting.tokens.held (guarded.vault key l₀ before)
      · exact effect.named.1
    · intro key l recorded
      rcases Moment.lottery_cases recorded with ⟨l₀, before, same⟩ | ⟨_, _, a, rfl, effect⟩
      · rw [same.feeAccount_eq, same.mint_eq]
        exact lasting.tokens.held (guarded.feeAccount key l₀ before)
      · exact effect.named.2
    · intro id t recorded
      rcases Moment.ticket_cases recorded with before | ⟨_, a, l, l', rfl, effect⟩
      · obtain ⟨m', mem, signed⟩ := guarded.buyer id t before
        exact ⟨m', List.mem_append_left _ mem, signed⟩
      · refine ⟨m, by simp, a.buyer, List.mem_of_getElem? effect.loaded.buyer,
          effect.loaded.buyer_signs, ?_⟩
        obtain ⟨-, -, -, -, -, ticket, -⟩ := Lottery.issue_eq_ok_iff.mp effect.granted
        rw [ticket]

/-- No custody address of a lottery of the book signs a step of the run, is shared with another lottery
of the book or is the fee collector. -/
structure Book.Apart (c : Book) (moments : List Moment) : Prop where
  unsigned : ∀ key, (c.account key).lottery?.isSome → ∀ m ∈ moments,
    ¬ m.SignedBy (Address.custody key).address
  unshared : ∀ key key', (c.account key).lottery?.isSome → (c.account key').lottery?.isSome →
    (Address.custody key).address = (Address.custody key').address → key = key'
  collector : ∀ key, (c.account key).lottery?.isSome →
    Known.feeCollector ≠ (Address.custody key).address

/-- What is apart in the end was apart before. -/
theorem Book.Apart.of_lasting {b c : Book} {moments earlier : List Moment}
    (apart : c.Apart moments) (lasting : b.Lasting c) (subset : earlier ⊆ moments) :
    b.Apart earlier := by
  have persists : ∀ key, (b.account key).lottery?.isSome → (c.account key).lottery?.isSome := by
    intro key recorded
    obtain ⟨l, recorded⟩ := Option.isSome_iff_exists.mp recorded
    obtain ⟨l', recorded', -⟩ := lasting.lottery key l recorded
    rw [recorded', Option.isSome_some]
  constructor
  · intro key recorded m mem
    exact apart.unsigned key (persists key recorded) m (subset mem)
  · intro key key' recorded recorded'
    exact apart.unshared key key' (persists key recorded) (persists key' recorded')
  · intro key recorded
    exact apart.collector key (persists key recorded)

/-! ### What a moment does to a vault -/

section Deposit

variable {earlier : List Moment} {m : Moment} {b c : Book} {key : Key} {l l' : Lottery}

/-- A token account has one wallet. -/
theorem Account.wallet_unique {a : Account} {mint mint' wallet wallet' : Key}
    {amount amount' : UInt64} (held : a.tokens? = some ⟨mint, wallet, amount⟩)
    (held' : a.tokens? = some ⟨mint', wallet', amount'⟩) : wallet = wallet' := by
  rw [held] at held'
  cases held'
  rfl

/-- A token account of another wallet is not the vault. -/
theorem Book.Guarded.ne_vault (guarded : b.Guarded earlier)
    (recorded : (b.account key).lottery? = some l) {other mint wallet : Key} {amount : UInt64}
    (held : (b.account other).tokens? = some ⟨mint, wallet, amount⟩)
    (foreign : wallet ≠ (Address.custody key).address) : l.vault ≠ other := by
  intro same
  obtain ⟨_, vault⟩ := guarded.vault key l recorded
  rw [same] at vault
  exact foreign (Account.wallet_unique held vault)

/-- Two lotteries do not share a vault. -/
theorem Book.Guarded.vault_ne_vault (guarded : b.Guarded earlier) {moments : List Moment}
    (apart : b.Apart moments) (recorded : (b.account key).lottery? = some l) {key' : Key}
    {l' : Lottery} (recorded' : (b.account key').lottery? = some l') (other : key ≠ key') :
    l.vault ≠ l'.vault := by
  obtain ⟨_, held⟩ := guarded.vault key' l' recorded'
  apply guarded.ne_vault recorded held
  intro same
  exact other (apart.unshared key' key (by simp [recorded']) (by simp [recorded]) same).symm

/-- The step of the moment changes the vault and the numbers sold of the lottery at `key` alike. -/
def Book.Deposited (b c : Book) (l l' : Lottery) : Prop :=
  (c.account l.vault).balance + l.sold.toNat = (b.account l.vault).balance + l'.sold.toNat

theorem Purchase.Effect.deposited {amount : UInt64} {a : Purchase.Accounts} {l₁ l₂ : Lottery}
    {t : Ticket}
    (effect : Purchase.Effect m.step.slot amount m.step.call.accounts a l₁ l₂ t b c)
    (guarded : b.Guarded earlier) (apart : b.Apart (earlier ++ [m]))
    (before : (b.account key).lottery? = some l) (after : (c.account key).lottery? = some l') :
    b.Deposited c l l' := by
  -- The buyer signs, so the purse is not the vault.
  have purse : l.vault ≠ a.purse.key := by
    apply guarded.ne_vault before effect.loaded.purse_held
    intro same
    refine apart.unsigned key (by simp [before]) m (by simp) ⟨a.buyer, ?_, ?_, ?_⟩
    · exact List.mem_of_getElem? effect.loaded.buyer
    · exact effect.loaded.buyer_signs
    · rw [← same, effect.checked.purse_owner]
  have moved := effect.balance l.vault
  rw [if_neg purse, Nat.add_zero] at moved
  rw [effect.lotteries] at after
  by_cases own : key = a.lottery.key
  · rw [if_pos own] at after
    rw [own, effect.before] at before
    cases before
    cases after
    obtain ⟨-, -, -, sum, -, -, sold⟩ := Lottery.issue_eq_ok_iff.mp effect.granted
    rw [if_pos effect.vault.symm] at moved
    unfold Book.Deposited
    simp only [sold]
    omega
  · rw [if_neg own, before] at after
    cases after
    have vault := guarded.vault_ne_vault apart before effect.before own
    rw [if_neg (effect.vault ▸ vault)] at moved
    unfold Book.Deposited
    omega

/-- A settlement of another lottery pays from another vault, and neither the winner nor the fee
collector is the custody address. -/
theorem Settlement.Effect.deposited {a : Settlement.Accounts} {l₁ l₂ : Lottery} {t : Ticket}
    {payout : Payout} (effect : Settlement.Effect m.step.call.accounts a l₁ l₂ t payout b c)
    (guarded : b.Guarded earlier) (apart : b.Apart (earlier ++ [m]))
    (before : (b.account key).lottery? = some l) (after : (c.account key).lottery? = some l')
    (other : key ≠ a.lottery.key) : b.Deposited c l l' := by
  have vault := guarded.vault_ne_vault apart before effect.granted.before other
  rw [← effect.granted.vault] at vault
  have fee : l.vault ≠ a.feeAccount.key := by
    obtain ⟨_, held⟩ := guarded.feeAccount _ _ effect.granted.before
    rw [effect.granted.feeAccount]
    exact guarded.ne_vault before held (apart.collector key (by simp [before]))
  have prize : l.vault ≠ a.prizeAccount.key := by
    intro same
    obtain ⟨_, held⟩ := effect.evolves.tokens.held (guarded.vault key l before)
    obtain ⟨_, held'⟩ := effect.prize_held
    rw [same] at held
    obtain ⟨m', mem, signed⟩ := guarded.buyer _ _ effect.granted.ticket
    refine apart.unsigned key (by simp [before]) m' (List.mem_append_left _ mem) ?_
    rw [← Account.wallet_unique held' held, effect.granted.winner]
    exact signed
  rw [effect.lotteries, if_neg other, before] at after
  cases after
  have moved := effect.balance l.vault
  rw [if_neg vault, if_neg prize, if_neg fee] at moved
  unfold Book.Deposited
  omega

/-- A step that only rewrites the record of a lottery, and not the numbers sold, moves no deposit. -/
theorem Book.Rewritten.deposited {id : Key} {l₁ l₂ : Lottery} (rewritten : b.Rewritten c id l₁ l₂)
    (sold : l₂.sold = l₁.sold) (before : (b.account key).lottery? = some l)
    (after : (c.account key).lottery? = some l') : b.Deposited c l l' := by
  unfold Book.Deposited
  rw [rewritten.balance]
  rw [rewritten.lotteries] at after
  split at after
  · rename_i here
    rw [here, rewritten.before] at before
    cases before
    cases after
    rw [sold]
  · rw [before] at after
    cases after
    rfl

theorem Book.Guarded.book (guarded : b.Guarded earlier) (m : Moment) :
    (m.book b).Guarded earlier := by
  constructor
  · simpa using guarded.vault
  · simpa using guarded.feeAccount
  · simpa using guarded.buyer

theorem Book.Apart.book {moments : List Moment} (apart : b.Apart moments) (m : Moment) :
    (m.book b).Apart moments := by
  constructor
  · simpa using apart.unsigned
  · simpa using apart.unshared
  · simpa using apart.collector

/-- Whatever a moment does but settle the lottery, its vault gains what it sells. -/
theorem Moment.deposited (guarded : b.Guarded earlier) (apart : b.Apart (earlier ++ [m]))
    (before : (b.account key).lottery? = some l)
    (after : ((m.outcome b).book.account key).lottery? = some l')
    (unpaid : ¬ m.Grants b .settle key) : b.Deposited (m.outcome b).book l l' := by
  have guarded := guarded.book m
  have apart := apart.book m
  have found : ((m.book b).account key).lottery? = some l := (m.lottery?_book b key).trans before
  suffices deposited : (m.book b).Deposited (m.outcome b).book l l' by
    unfold Book.Deposited at deposited
    rwa [balance_book] at deposited
  rcases m.outcome_cases b with idle | ⟨result, event, deed⟩
  · rw [idle, found] at after
    cases after
    rw [idle]
    rfl
  · cases deed with
    | opening _ effect =>
      rw [effect.lotteries] at after
      split at after
      · rename_i here
        rw [here, Account.lottery?_eq_none_of_vacant effect.checked.lottery_vacant] at found
        cases found
      · rw [found] at after
        cases after
        unfold Book.Deposited
        rw [effect.balance]
    | purchase _ effect => exact effect.deposited guarded apart found after
    | drawing _ effect =>
      have sold := Lottery.sold_of_draw effect.granted
      exact effect.rewritten.deposited sold found after
    | settlement request effect _ =>
      apply effect.deposited guarded apart found after
      rintro rfl
      exact unpaid ⟨result, request, by rw [effect.loaded.lottery]; rfl⟩
    | voiding _ effect =>
      have sold := Lottery.sold_of_void effect.granted
      exact effect.rewritten.deposited sold found after

end Deposit

/-! ### What a run does to a vault -/

section Run

variable {b : Book} {before between : List Moment} {opening : Moment} {key : Key}
  {capacity deadline : UInt64}

/-- Right after its opening, a lottery has sold nothing. -/
theorem Moment.Grants.launched (opened : opening.Grants b (.launch capacity deadline) key) :
    ∃ l, ((opening.outcome b).book.account key).lottery? = some l ∧ l.sold = 0 := by
  obtain ⟨a, l, rfl, effect⟩ := opened.opening
  refine ⟨l, by simp [effect.lotteries], ?_⟩
  obtain ⟨-, -, rfl⟩ := Lottery.launch_eq_ok_iff.mp effect.granted
  rfl

/-- The vault has gained what was sold since the opening. -/
theorem Book.deposited_through (unclaimed : b.Unclaimed)
    (opened : opening.Grants (b.through before) (.launch capacity deadline) key)
    (unpaid : ∀ earlier m later, between = earlier ++ m :: later →
      ¬ m.Grants (b.through (before ++ opening :: earlier)) .settle key)
    (apart : (b.through (before ++ opening :: between)).Apart (before ++ opening :: between)) :
    ∃ l l', ((b.through (before ++ [opening])).account key).lottery? = some l ∧ l.sold = 0 ∧
      ((b.through (before ++ opening :: between)).account key).lottery? = some l' ∧
      l.SameTerms l' ∧
      (b.through (before ++ [opening])).Deposited (b.through (before ++ opening :: between)) l
        l' := by
  induction between using List.reverseRecOn with
  | nil =>
    obtain ⟨l, recorded, unsold⟩ := opened.launched
    rw [← through_concat] at recorded
    exact ⟨l, l, recorded, unsold, recorded, rfl, rfl⟩
  | append_singleton between m ih =>
    have split : before ++ opening :: (between ++ [m]) = before ++ opening :: between ++ [m] := by
      simp
    have lasting := m.lasting (b.through (before ++ opening :: between))
    rw [split, through_concat b (before ++ opening :: between)] at apart ⊢
    obtain ⟨l, l', launched, unsold, recorded, same, deposited⟩ := ih
      (fun earlier m' later here => unpaid earlier m' (later ++ [m]) (by simp [here]))
      (apart.of_lasting lasting (List.subset_append_left _ _))
    obtain ⟨l'', recorded', same'⟩ := lasting.lottery key l' recorded
    refine ⟨l, l'', launched, unsold, recorded', same.trans same', ?_⟩
    have gained := Moment.deposited (guarded_through unclaimed _)
      (apart.of_lasting lasting (List.Subset.refl _)) recorded recorded'
      (unpaid between m [] rfl)
    unfold Deposited at deposited gained ⊢
    rw [same.vault_eq] at gained
    omega

/-- From its opening until it is settled, whatever else is done on the ledger, the vault of a lottery
is a token account of its custody address and holds exactly what it held at the opening and the numbers
sold. -/
theorem deposits_kept_until_settled (unclaimed : b.Unclaimed)
    (opened : opening.Grants (b.through before) (.launch capacity deadline) key)
    (unpaid : ∀ earlier m later, between = earlier ++ m :: later →
      ¬ m.Grants (b.through (before ++ opening :: earlier)) .settle key)
    (apart : (b.through (before ++ opening :: between)).Apart (before ++ opening :: between)) :
    ∃ l held amount,
      ((b.through (before ++ opening :: between)).account key).lottery? = some l ∧
      ((b.through (before ++ [opening])).account l.vault).tokens? =
        some ⟨l.mint, (Address.custody key).address, held⟩ ∧
      ((b.through (before ++ opening :: between)).account l.vault).tokens? =
        some ⟨l.mint, (Address.custody key).address, amount⟩ ∧
      amount.toNat = held.toNat + l.sold.toNat := by
  obtain ⟨l, l', launched, unsold, recorded, same, deposited⟩ :=
    Book.deposited_through unclaimed opened unpaid apart
  obtain ⟨held, start⟩ := (Book.guarded_through unclaimed _).vault key l launched
  obtain ⟨amount, now⟩ := (Book.guarded_through unclaimed _).vault key l' recorded
  rw [same.vault_eq, same.mint_eq] at now
  refine ⟨l', held, amount, recorded, ?_, ?_, ?_⟩
  · rw [same.vault_eq, same.mint_eq]
    exact start
  · rw [same.vault_eq, same.mint_eq]
    exact now
  · unfold Book.Deposited at deposited
    rw [Account.balance_of_tokens? start, Account.balance_of_tokens? now, unsold] at deposited
    exact deposited

/-- The vault of the sample lottery holds the forty tokens that were paid. -/
theorem deposits_kept_after_purchase :
    ∃ l held amount, (Sample.purchased.account Sample.lottery).lottery? = some l ∧
      (Sample.opened.account l.vault).tokens? = some ⟨l.mint, Sample.custody, held⟩ ∧
      (Sample.purchased.account l.vault).tokens? = some ⟨l.mint, Sample.custody, amount⟩ ∧
      amount.toNat = held.toNat + l.sold.toNat := by
  have opened : Sample.opening.Grants (Sample.book.through []) (.launch 100 50) Sample.lottery :=
    ⟨Sample.opening_done.1, by decide +kernel, rfl⟩
  have unpaid : ∀ earlier m later, [Sample.purchase] = earlier ++ m :: later →
      ¬ m.Grants (Sample.book.through ([] ++ Sample.opening :: earlier)) .settle Sample.lottery := by
    intro earlier m later here granted
    have mem : m ∈ [Sample.purchase] := by simp [here]
    have request := granted.request
    rw [List.mem_singleton.mp mem] at request
    revert request
    decide +kernel
  have apart : (Sample.book.through ([] ++ Sample.opening :: [Sample.purchase])).Apart
      ([] ++ Sample.opening :: [Sample.purchase]) := by
    rw [List.nil_append, Sample.through_purchase]
    constructor
    · intro key recorded m mem
      rw [Sample.lottery_unique recorded, Sample.custody_eq]
      have unsigned : ∀ m ∈ [Sample.opening, Sample.purchase], ∀ e ∈ m.step.call.accounts,
          e.signer = true → e.key ≠ Sample.custody := by
        decide +kernel
      rintro ⟨e, listed, signs, here⟩
      exact unsigned m mem e listed signs here
    · intro key key' recorded recorded' _
      rw [Sample.lottery_unique recorded, Sample.lottery_unique recorded']
    · intro key recorded
      rw [Sample.lottery_unique recorded, Sample.custody_eq]
      decide +kernel
  have kept := deposits_kept_until_settled Sample.unclaimed opened unpaid apart
  rw [List.nil_append, Sample.through_purchase, Sample.custody_eq] at kept
  rwa [List.nil_append, show Sample.book.through [Sample.opening] = Sample.opened from
    Sample.opening_done.2] at kept

end Run

end RangeLottery
