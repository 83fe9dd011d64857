import RangeLottery.Proofs.Ledger.Holding

/-!
How a book changes. Three relations between a book and a later one say where they differ
(`Book.Confined`), what an account with data keeps whatever happens to it (`Book.Evolves`), and which
tokens moved (`Book.Transferred`). The operations of the ledger's programs are characterized by them,
so that what a step does follows from the operations it is made of.
-/

namespace RangeLottery

namespace Book

variable {b c d : Book} {rewritten rewritten' charged charged' : List Key}

theorem account_modify (b : Book) (key other : Key) (change : Account → Account) :
    (b.modify key change).account other =
      if key = other then change (b.account key) else b.account other :=
  account_put b key other _

@[simp] theorem account_modify_self (b : Book) (key : Key) (change : Account → Account) :
    (b.modify key change).account key = change (b.account key) := by
  simp [account_modify]

theorem account_modify_of_ne {key other : Key} {change : Account → Account} (apart : other ≠ key) :
    (b.modify key change).account other = b.account other := by
  simp [account_modify, apart.symm]

/-! ### Where books differ -/

/-- The books differ in what the accounts of `rewritten` hold and in the lamports of the accounts of
`charged`, and in nothing else. -/
structure Confined (b c : Book) (rewritten charged : List Key) : Prop where
  holding : ∀ key, key ∉ rewritten → (b.account key).SameHolding (c.account key)
  lamports : ∀ key, key ∉ charged → (c.account key).lamports = (b.account key).lamports

namespace Confined

protected theorem refl (b : Book) (rewritten charged : List Key) :
    b.Confined b rewritten charged :=
  ⟨fun _ _ => .refl _, fun _ _ => rfl⟩

protected theorem trans (first : b.Confined c rewritten charged)
    (second : c.Confined d rewritten' charged') :
    b.Confined d (rewritten ++ rewritten') (charged ++ charged') := by
  constructor
  · intro key outside
    rw [List.mem_append, not_or] at outside
    exact (first.holding key outside.1).trans (second.holding key outside.2)
  · intro key unpaid
    rw [List.mem_append, not_or] at unpaid
    exact (second.lamports key unpaid.2).trans (first.lamports key unpaid.1)

theorem mono (confined : b.Confined c rewritten charged) (more : rewritten ⊆ rewritten')
    (more' : charged ⊆ charged') : b.Confined c rewritten' charged' :=
  ⟨fun key outside => confined.holding key fun mem => outside (more mem),
    fun key unpaid => confined.lamports key fun mem => unpaid (more' mem)⟩

/-- An account that is neither rewritten nor charged is the same. -/
theorem account_eq (confined : b.Confined c rewritten charged) {key : Key} (outside : key ∉ rewritten)
    (unpaid : key ∉ charged) : c.account key = b.account key :=
  (confined.holding key outside).eq_of_lamports (confined.lamports key unpaid)

end Confined

/-- Writing data moves no lamports. -/
theorem confined_write (b : Book) (key : Key) (data : Account → Bytes) :
    b.Confined (b.modify key fun a => { a with data := data a }) [key] [] := by
  constructor
  · intro other outside
    rw [account_modify_of_ne (List.ne_of_not_mem_cons outside)]
    exact .refl _
  · intro other _
    rw [account_modify]
    split
    · rename_i here
      rw [here]
    · rfl

/-! ### What lasts -/

/-- A token account keeps all that is read from it but its amount. -/
def KeepsWallets (b c : Book) : Prop :=
  ∀ key tokens, (b.account key).tokens? = some tokens →
    ∃ amount, (c.account key).tokens? = some { tokens with amount }

/-- A token account of a wallet stays one. -/
theorem KeepsWallets.held (keeps : b.KeepsWallets c) {key mint wallet : Key}
    (held : ∃ amount, (b.account key).tokens? = some ⟨mint, wallet, amount⟩) :
    ∃ amount, (c.account key).tokens? = some ⟨mint, wallet, amount⟩ := by
  obtain ⟨amount, held⟩ := held
  exact keeps key _ held

theorem KeepsWallets.trans (first : b.KeepsWallets c) (second : c.KeepsWallets d) :
    b.KeepsWallets d := by
  intro key tokens held
  obtain ⟨_, held'⟩ := first key tokens held
  obtain ⟨amount, held''⟩ := second key _ held'
  exact ⟨amount, held''⟩

/-- An account with data keeps its owner and the length of its data, and a token account its mint and
its wallet. -/
structure Evolves (b c : Book) : Prop where
  owner : ∀ key, (b.account key).data ≠ [] → (c.account key).owner = (b.account key).owner
  length : ∀ key, (b.account key).data ≠ [] →
    (c.account key).data.length = (b.account key).data.length
  tokens : b.KeepsWallets c

namespace Evolves

protected theorem refl (b : Book) : b.Evolves b :=
  ⟨fun _ _ => rfl, fun _ _ => rfl, fun _ tokens held => ⟨tokens.amount, held⟩⟩

theorem data_ne_nil (evolves : b.Evolves c) {key : Key} (data : (b.account key).data ≠ []) :
    (c.account key).data ≠ [] := by
  rw [← List.length_pos_iff, evolves.length key data, List.length_pos_iff]
  exact data

protected theorem trans (first : b.Evolves c) (second : c.Evolves d) : b.Evolves d where
  owner key data :=
    (second.owner key (first.data_ne_nil data)).trans (first.owner key data)
  length key data :=
    (second.length key (first.data_ne_nil data)).trans (first.length key data)
  tokens := first.tokens.trans second.tokens

/-- A token account never was a record. -/
theorem lottery?_eq_none (evolves : b.Evolves c) {key : Key} {tokens : TokenAccount}
    (held : (c.account key).tokens? = some tokens) : (b.account key).lottery? = none := by
  cases recorded : (b.account key).lottery? with
  | none => rfl
  | some l =>
    have owned := (Account.lottery?_eq_some_iff.mp recorded).1
    have owned' := evolves.owner key (Account.data_ne_nil_of_lottery? recorded)
    rw [Account.tokens?_eq_none_of_owner (owned'.trans owned)] at held
    cases held

/-- A token account never was a record. -/
theorem ticket?_eq_none (evolves : b.Evolves c) {key : Key} {tokens : TokenAccount}
    (held : (c.account key).tokens? = some tokens) : (b.account key).ticket? = none := by
  cases recorded : (b.account key).ticket? with
  | none => rfl
  | some t =>
    have owned := (Account.ticket?_eq_some_iff.mp recorded).1
    have owned' := evolves.owner key (Account.data_ne_nil_of_ticket? recorded)
    rw [Account.tokens?_eq_none_of_owner (owned'.trans owned)] at held
    cases held

end Evolves

/-- A change of one account lasts if it keeps what an account with data keeps. -/
theorem evolves_modify {key : Key} {change : Account → Account}
    (owner : (b.account key).data ≠ [] →
      (change (b.account key)).owner = (b.account key).owner)
    (length : (b.account key).data ≠ [] →
      (change (b.account key)).data.length = (b.account key).data.length)
    (tokens : ∀ tokens, (b.account key).tokens? = some tokens →
      ∃ amount, (change (b.account key)).tokens? = some { tokens with amount }) :
    b.Evolves (b.modify key change) := by
  constructor
  · intro other data
    by_cases here : other = key
    · subst here
      rw [account_modify_self]
      exact owner data
    · rw [account_modify_of_ne here]
  · intro other data
    by_cases here : other = key
    · subst here
      rw [account_modify_self]
      exact length data
    · rw [account_modify_of_ne here]
  · intro other held read
    by_cases here : other = key
    · subst here
      rw [account_modify_self]
      exact tokens held read
    · rw [account_modify_of_ne here]
      exact ⟨held.amount, read⟩

/-- Overwriting a record with data of its length lasts, since no token account has that length. -/
theorem evolves_write {key : Key} {data : Bytes} (unheld : (b.account key).tokens? = none)
    (length : data.length = (b.account key).data.length) :
    b.Evolves (b.modify key fun a => { a with data }) := by
  apply evolves_modify
  · intro _
    rfl
  · intro _
    exact length
  · intro tokens held
    rw [unheld] at held
    cases held

/-! ### New accounts -/

/-- The account at `target` was without data, and now `owner` has `data` in it. -/
structure Allocated (b c : Book) (target : Key) (data : Bytes) (owner : Key) : Prop where
  vacant : (b.account target).data = []
  owner_after : (c.account target).owner = owner
  data_after : (c.account target).data = data

theorem allocate_eq_ok_iff {payer target owner : Key} {lamports : UInt64} {data : Bytes} :
    b.allocate payer target lamports data owner = .ok c ↔
      (b.account target).data = [] ∧
        ∃ left, Amount.sub? (b.account payer).lamports lamports = some left ∧
          ∃ held, Amount.add? ((b.modify payer fun a =>
              { a with lamports := left }).account target).lamports lamports = some held ∧
            c = (b.modify payer fun a => { a with lamports := left }).modify target fun a =>
              { a with owner, lamports := held, data } := by
  unfold allocate
  by_cases vacant : (b.account target).data = []
  · simp only [vacant, ne_eq, not_true_eq_false, if_false, true_and]
    cases Amount.sub? (b.account payer).lamports lamports with
    | none => simp
    | some left =>
      simp only [Option.some.injEq, exists_eq_left']
      cases Amount.add? ((b.modify payer fun a =>
        { a with lamports := left }).account target).lamports lamports with
      | none => simp
      | some held => simp [eq_comm]
  · simp [vacant]

section Allocate

variable {payer target owner : Key} {lamports : UInt64} {data : Bytes}

theorem allocated_of_allocate (done : b.allocate payer target lamports data owner = .ok c) :
    b.Allocated c target data owner := by
  obtain ⟨vacant, left, -, held, -, rfl⟩ := allocate_eq_ok_iff.mp done
  exact ⟨vacant, by simp, by simp⟩

/-- Apart from the new account only the lamports of the payer change. -/
theorem confined_of_allocate (done : b.allocate payer target lamports data owner = .ok c) :
    b.Confined c [target] [payer, target] := by
  obtain ⟨-, left, -, held, -, rfl⟩ := allocate_eq_ok_iff.mp done
  constructor
  · intro key outside
    rw [account_modify_of_ne (List.ne_of_not_mem_cons outside), account_modify]
    split
    · rename_i here
      subst here
      exact ⟨rfl, rfl, rfl⟩
    · exact .refl _
  · intro key unpaid
    rw [List.mem_cons, List.mem_singleton, not_or] at unpaid
    rw [account_modify_of_ne unpaid.2, account_modify_of_ne unpaid.1]

theorem evolves_of_allocate (done : b.allocate payer target lamports data owner = .ok c) :
    b.Evolves c := by
  have vacant := (allocated_of_allocate done).vacant
  have confined := confined_of_allocate done
  have elsewhere : ∀ key, (b.account key).data ≠ [] →
      (b.account key).SameHolding (c.account key) := by
    intro key present
    refine confined.holding key fun mem => present ?_
    rw [List.mem_singleton.mp mem]
    exact vacant
  exact {
    owner := fun key present => (elsewhere key present).owner
    length := fun key present => congrArg List.length (elsewhere key present).data
    tokens := fun key tokens held =>
      ⟨tokens.amount,
        (elsewhere key (Account.data_ne_nil_of_tokens? held)).tokens?_eq.trans held⟩ }

end Allocate

/-! ### Tokens -/

/-- A change of a token account's amount. -/
theorem tokens?_setAmount {a : Account} {tokens : TokenAccount} (held : a.tokens? = some tokens)
    (amount : UInt64) :
    ({ a with data := TokenAccount.setAmount a.data amount } : Account).tokens? =
      some { tokens with amount } := by
  obtain ⟨owned, decoded⟩ := Account.tokens?_eq_some_iff.mp held
  exact Account.tokens?_eq_some_iff.mpr ⟨owned, TokenAccount.decode_setAmount decoded amount⟩

theorem evolves_setAmount {key : Key} {tokens : TokenAccount}
    (held : (b.account key).tokens? = some tokens) (amount : UInt64) :
    b.Evolves (b.modify key fun a => { a with data := TokenAccount.setAmount a.data amount }) := by
  have after := tokens?_setAmount held amount
  apply evolves_modify
  · intro _
    rfl
  · intro _
    rw [TokenAccount.length_of_decode (Account.tokens?_eq_some_iff.mp held).2]
    exact TokenAccount.length_of_decode (Account.tokens?_eq_some_iff.mp after).2
  · intro other same
    rw [held] at same
    cases same
    exact ⟨amount, after⟩

theorem balance_setAmount {key : Key} {tokens : TokenAccount}
    (held : (b.account key).tokens? = some tokens) (amount : UInt64) (other : Key) :
    ((b.modify key fun a =>
        { a with data := TokenAccount.setAmount a.data amount }).account other).balance =
      if other = key then amount.toNat else (b.account other).balance := by
  split
  · rename_i here
    subst here
    rw [account_modify_self, Account.balance_of_tokens? (tokens?_setAmount held amount)]
  · rename_i apart
    rw [account_modify_of_ne apart]

/-- `amount` tokens left `source` and arrived at `destination`, which may be the same account; no
other balance differs. -/
def Transferred (b c : Book) (source destination : Key) (amount : Nat) : Prop :=
  ∀ key, (c.account key).balance + (if key = source then amount else 0) =
    (b.account key).balance + (if key = destination then amount else 0)

section Transfer

variable {source destination : Key} {amount : UInt64} {paying receiving : TokenAccount}

theorem takeTokens_eq_ok_iff (held : (b.account source).tokens? = some paying) :
    b.takeTokens source amount = .ok c ↔
      ∃ left, Amount.sub? paying.amount amount = some left ∧
        c = b.modify source fun a => { a with data := TokenAccount.setAmount a.data left } := by
  have decoded := (Account.tokens?_eq_some_iff.mp held).2
  simp only [takeTokens, decoded]
  cases Amount.sub? paying.amount amount with
  | none => simp
  | some left =>
    simp only [Except.ok.injEq, Option.some.injEq, exists_eq_left']
    exact eq_comm

theorem addTokens_eq_ok_iff (held : (b.account destination).tokens? = some receiving) :
    b.addTokens destination amount = .ok c ↔
      ∃ total, Amount.add? receiving.amount amount = some total ∧
        c = b.modify destination fun a => { a with data := TokenAccount.setAmount a.data total } := by
  have decoded := (Account.tokens?_eq_some_iff.mp held).2
  simp only [addTokens, decoded]
  cases Amount.add? receiving.amount amount with
  | none => simp
  | some total =>
    simp only [Except.ok.injEq, Option.some.injEq, exists_eq_left']
    exact eq_comm

theorem transfer_eq_ok_iff :
    b.transfer source destination amount = .ok c ↔
      ∃ taken, b.takeTokens source amount = .ok taken ∧ taken.addTokens destination amount = .ok c := by
  unfold transfer
  cases b.takeTokens source amount <;> simp

/-- What a transfer between token accounts does. -/
theorem transfer_spec (held : (b.account source).tokens? = some paying)
    (held' : (b.account destination).tokens? = some receiving)
    (done : b.transfer source destination amount = .ok c) :
    b.Transferred c source destination amount.toNat ∧ b.Evolves c ∧
      b.Confined c [source, destination] [] := by
  obtain ⟨taken, took, added⟩ := transfer_eq_ok_iff.mp done
  obtain ⟨left, enough, rfl⟩ := (takeTokens_eq_ok_iff held).mp took
  have evolves := evolves_setAmount held left
  obtain ⟨before, held''⟩ := evolves.tokens destination receiving held'
  obtain ⟨total, fits, rfl⟩ := (addTokens_eq_ok_iff held'').mp added
  refine ⟨?_, evolves.trans (evolves_setAmount held'' total),
    (confined_write b source _).trans (confined_write _ destination _)⟩
  intro key
  have paid := Amount.sub?_eq_some_iff.mp enough
  have received : before.toNat + amount.toNat = total.toNat := Amount.add?_eq_some_iff.mp fits
  have before_eq := Account.balance_of_tokens? held''
  simp only [balance_setAmount held] at before_eq
  simp only [balance_setAmount held'', balance_setAmount held]
  have source_eq := Account.balance_of_tokens? held
  -- The destination is read after the payment left, so the cases follow the aliasing of the two.
  by_cases isDestination : key = destination
  · subst isDestination
    by_cases isSource : key = source
    · subst isSource
      simp only [if_true] at before_eq ⊢
      omega
    · simp only [isSource, if_true, if_false] at before_eq ⊢
      omega
  · by_cases isSource : key = source
    · subst isSource
      simp only [isDestination, if_true, if_false]
      omega
    · simp only [isDestination, isSource, if_false]

end Transfer

end Book

end RangeLottery
