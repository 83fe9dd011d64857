import Mathlib.Logic.Relation
import RangeLottery.Proofs.Record.Course

/-!
The lifecycle of a lottery. A lottery goes one way: from undrawn to drawn to settled, or from undrawn to
voided. Whatever is tried on it, in whatever order, each draw, settlement and voiding is granted at most
once, the winning number is one of the numbers sold and is fixed with them by the draw, and the phase
that an observer sees never goes back as long as time does not.
-/

namespace RangeLottery

/-- The kinds that a granted operation goes between. -/
inductive RecordKind.Successor : RecordKind → RecordKind → Prop
  | draw : Successor .undrawn .drawn
  | settle : Successor .drawn .settled
  | void : Successor .undrawn .voided

/-- Whether a lottery of this kind was granted the act; sales do not show in the kind. -/
def RecordKind.records (kind : RecordKind) : Lottery.Act → Bool
  | .sale => false
  | .draw => kind = .drawn || kind = .settled
  | .settlement => kind = .settled
  | .voiding => kind = .voided

/-- The phases that follow on one another. -/
inductive Phase.Successor : Phase → Phase → Prop
  | close : Successor .selling .closed
  | draw : Successor .closed .drawn
  | settle : Successor .drawn .settled
  | void : Successor .closed .voided

/-- The second phase is the first one or comes after it. -/
def Phase.Leads : Phase → Phase → Prop :=
  Relation.ReflTransGen Phase.Successor

/-- What closes a lottery keeps it closed. -/
theorem Phase.leads_of_imp {closed closed' : Prop} [Decidable closed] [Decidable closed']
    (stays : closed → closed') :
    Leads (if closed then .closed else .selling) (if closed' then .closed else .selling) := by
  by_cases holds : closed
  · rw [if_pos holds, if_pos (stays holds)]
    exact .refl
  · rw [if_neg holds]
    split
    · exact .single .close
    · exact .refl

namespace Lottery

variable {l l' l'' : Lottery} {operation : Operation} {operations : List Operation}
  {result : Except Refusal Answer} {attempts : List Attempt} {slot slot' : UInt64}

/-! ### Phases -/

theorem phase_eq_of_undrawn (undrawn : l.kind = .undrawn) :
    l.phase slot = if l.deadline ≤ slot ∨ l.capacity ≤ l.sold then .closed else .selling := by
  rw [phase, undrawn]

theorem phase_eq_of_drawn (drawn : l.kind = .drawn) : l.phase slot = .drawn := by
  rw [phase, drawn]

/-- A lottery that sells or is closed may close. -/
theorem leads_closed_of_undrawn (undrawn : l.kind = .undrawn) : (l.phase slot).Leads .closed := by
  rw [phase_eq_of_undrawn undrawn]
  split
  · exact .refl
  · exact .single .close

/-- A record that is left alone closes with time and does nothing else. -/
theorem phase_leads (l : Lottery) (later : slot ≤ slot') : (l.phase slot).Leads (l.phase slot') := by
  unfold phase
  cases l.kind with
  | uninitialized | undrawn | ticket =>
    apply Phase.leads_of_imp
    exact Or.imp_left fun closed => UInt64.le_trans closed later
  | drawn | settled | voided => exact .refl

/-! ### What a record says of itself -/

/-- The numbers of the record are those of its kind. -/
structure Coherent (l : Lottery) : Prop where
  storable : l.Storable
  undrawn : l.kind = .undrawn ∨ l.kind = .voided → l.number = 0
  drawn : l.kind = .drawn ∨ l.kind = .settled → l.number < l.sold
  unsold : l.kind = .voided → l.sold = 0

theorem coherent_of_launch {authority vault feeAccount mint : Key} {capacity deadline : UInt64}
    (launched : launch authority vault feeAccount mint capacity deadline slot = .ok l) :
    l.Coherent := by
  have storable := storable_of_launch launched
  obtain ⟨-, -, rfl⟩ := launch_eq_ok_iff.mp launched
  exact ⟨storable, fun _ => rfl, by simp, by simp⟩

theorem Tried.coherent (tried : l.Tried operation result l') (coherent : l.Coherent) :
    l'.Coherent := by
  have storable := tried.storable coherent.storable
  cases tried with
  | refused => exact coherent
  | issued granted =>
    obtain ⟨undrawn, -, -, -, -, -, rfl⟩ := issue_eq_ok_iff.mp granted
    exact ⟨storable, fun _ => coherent.undrawn (.inl undrawn), by simp [undrawn], by simp [undrawn]⟩
  | drawn granted =>
    have below := number_lt_sold_of_draw granted
    obtain ⟨-, -, -, rfl⟩ := draw_eq_ok_iff.mp granted
    exact ⟨storable, by simp, fun _ => below, by simp⟩
  | settled granted =>
    obtain ⟨drawn, -, -, -, rfl⟩ := settle_eq_ok_iff.mp granted
    exact ⟨storable, by simp, fun _ => coherent.drawn (.inl drawn), by simp⟩
  | voided granted =>
    obtain ⟨undrawn, -, unsold, rfl⟩ := void_eq_ok_iff.mp granted
    exact ⟨storable, fun _ => coherent.undrawn (.inl undrawn), by simp, fun _ => unsold⟩

/-! ### One way -/

/-- The kind stays or goes on by one. -/
theorem Tried.kind (tried : l.Tried operation result l') :
    l'.kind = l.kind ∨ RecordKind.Successor l.kind l'.kind := by
  cases tried with
  | refused => exact .inl rfl
  | issued granted =>
    obtain ⟨-, -, -, -, -, -, rfl⟩ := issue_eq_ok_iff.mp granted
    exact .inl rfl
  | drawn granted =>
    obtain ⟨⟨undrawn, -, -⟩, -, -, rfl⟩ := draw_eq_ok_iff.mp granted
    rw [undrawn]
    exact .inr .draw
  | settled granted =>
    obtain ⟨drawn, -, -, -, rfl⟩ := settle_eq_ok_iff.mp granted
    rw [drawn]
    exact .inr .settle
  | voided granted =>
    obtain ⟨undrawn, -, -, rfl⟩ := void_eq_ok_iff.mp granted
    rw [undrawn]
    exact .inr .void

/-- `l'` is what became of `l`: its terms are the same, a drawn number is fixed with the numbers sold,
and no phase comes before an earlier one. -/
structure Advances (l l' : Lottery) : Prop where
  terms : l.SameTerms l'
  number : ∀ number, l.winningNumber? = some number →
    l'.winningNumber? = some number ∧ l'.number = l.number ∧ l'.sold = l.sold
  phase : ∀ slot slot', slot ≤ slot' → (l.phase slot).Leads (l'.phase slot')

protected theorem Advances.refl (l : Lottery) : l.Advances l :=
  ⟨.refl l, fun _ drawn => ⟨drawn, rfl, rfl⟩, fun _ _ later => l.phase_leads later⟩

protected theorem Advances.trans (first : l.Advances l') (second : l'.Advances l'') :
    l.Advances l'' where
  terms := first.terms.trans second.terms
  number := by
    intro number drawn
    obtain ⟨drawn', number_eq, sold_eq⟩ := first.number number drawn
    obtain ⟨drawn'', number_eq', sold_eq'⟩ := second.number number drawn'
    exact ⟨drawn'', number_eq'.trans number_eq, sold_eq'.trans sold_eq⟩
  phase := by
    intro slot slot' later
    exact (first.phase slot slot' later).trans (second.phase slot' slot' (UInt64.le_refl _))

/-- The phase at a slot, before and after one operation. -/
theorem Tried.phase_leads (tried : l.Tried operation result l') (slot : UInt64) :
    (l.phase slot).Leads (l'.phase slot) := by
  cases tried with
  | refused => exact .refl
  | @issued _ _ _ _ t _ granted =>
    have more := UInt64.le_of_lt (sold_lt_of_issue granted)
    obtain ⟨undrawn, -, -, -, -, -, rfl⟩ := issue_eq_ok_iff.mp granted
    have undrawn' : { l with sold := t.stop }.kind = .undrawn := undrawn
    rw [phase_eq_of_undrawn undrawn, phase_eq_of_undrawn undrawn']
    apply Phase.leads_of_imp
    exact Or.imp_right fun closed => UInt64.le_trans closed more
  | drawn granted =>
    obtain ⟨⟨undrawn, -, -⟩, -, -, rfl⟩ := draw_eq_ok_iff.mp granted
    exact (leads_closed_of_undrawn undrawn).tail .draw
  | settled granted =>
    obtain ⟨drawn, -, -, -, rfl⟩ := settle_eq_ok_iff.mp granted
    rw [phase_eq_of_drawn drawn]
    exact .single .settle
  | voided granted =>
    obtain ⟨undrawn, -, -, rfl⟩ := void_eq_ok_iff.mp granted
    exact (leads_closed_of_undrawn undrawn).tail .void

/-- A drawn number and the numbers sold stay as they are. -/
theorem Tried.number (tried : l.Tried operation result l') {number : UInt64}
    (drawn : l.winningNumber? = some number) :
    l'.winningNumber? = some number ∧ l'.number = l.number ∧ l'.sold = l.sold := by
  cases tried with
  | refused => exact ⟨drawn, rfl, rfl⟩
  | issued granted =>
    obtain ⟨undrawn, -⟩ := issue_eq_ok_iff.mp granted
    simp [winningNumber?, undrawn] at drawn
  | drawn granted =>
    obtain ⟨⟨undrawn, -⟩, -⟩ := draw_eq_ok_iff.mp granted
    simp [winningNumber?, undrawn] at drawn
  | settled granted =>
    obtain ⟨kind, -, -, -, rfl⟩ := settle_eq_ok_iff.mp granted
    simpa [winningNumber?, kind] using drawn
  | voided granted =>
    obtain ⟨undrawn, -⟩ := void_eq_ok_iff.mp granted
    simp [winningNumber?, undrawn] at drawn

theorem Tried.advances (tried : l.Tried operation result l') : l.Advances l' where
  terms := tried.sameTerms
  number _ := tried.number
  phase _ slot' later := (l.phase_leads later).trans (tried.phase_leads slot')

/-- A course only advances the lottery. -/
theorem advances_after (l : Lottery) (operations : List Operation) :
    l.Advances (l.after operations) := by
  apply course_induction (motive := fun _ l' => l.Advances l') (.refl l)
  intro attempts l' operation result l'' _ tried advances
  exact advances.trans tried.advances

/-! ### What a record says of its course -/

/-- A granted purchase came before the deadline, and a granted draw took a hash from behind it. -/
def Attempt.Timely (deadline : UInt64) : Attempt → Prop
  | ⟨.issue _ _ _ slot, .ok _⟩ => slot < deadline
  | ⟨.draw _ sample _, .ok _⟩ => deadline < sample.slot
  | _ => True

theorem Tried.timely (tried : l.Tried operation result l') :
    Attempt.Timely l.deadline ⟨operation, result⟩ := by
  cases tried with
  | refused operation => cases operation <;> trivial
  | issued granted =>
    obtain ⟨-, early, -⟩ := issue_eq_ok_iff.mp granted
    exact early
  | drawn granted =>
    obtain ⟨-, late, -⟩ := draw_eq_ok_iff.mp granted
    exact late
  | settled | voided => trivial

/-- The kind goes on exactly when something other than a sale is granted. -/
theorem Tried.records (tried : l.Tried operation result l') {act : Act} (notSale : act ≠ .sale) :
    (l'.kind.records act).toNat =
      (l.kind.records act).toNat + ((Attempt.mk operation result).grants act).toNat := by
  cases tried with
  | refused => simp
  | issued granted =>
    obtain ⟨-, -, -, -, -, -, rfl⟩ := issue_eq_ok_iff.mp granted
    simp [Operation.act, notSale.symm]
  | drawn granted =>
    obtain ⟨⟨undrawn, -, -⟩, -, -, rfl⟩ := draw_eq_ok_iff.mp granted
    rw [undrawn]
    cases act <;> rfl
  | settled granted =>
    obtain ⟨drawn, -, -, -, rfl⟩ := settle_eq_ok_iff.mp granted
    rw [drawn]
    cases act <;> rfl
  | voided granted =>
    obtain ⟨undrawn, -, -, rfl⟩ := void_eq_ok_iff.mp granted
    rw [undrawn]
    cases act <;> rfl

/-- A lottery that was granted a sale has sold something. -/
theorem Tried.sold (tried : l.Tried operation result l')
    (sale : l.sold ≠ 0 ∨ (Attempt.mk operation result).grants .sale = true) : l'.sold ≠ 0 := by
  cases tried with
  | refused => simpa using sale
  | issued granted =>
    have more := sold_lt_of_issue granted
    intro unsold
    rw [unsold] at more
    exact absurd more (UInt64.not_lt.mpr UInt64.zero_le)
  | drawn granted =>
    rw [sold_of_draw granted]
    simpa [Operation.act] using sale
  | settled granted =>
    rw [sold_of_settle granted]
    simpa [Operation.act] using sale
  | voided granted =>
    rw [sold_of_void granted]
    simpa [Operation.act] using sale

/-- The record tells what was granted in the course that led to it. -/
structure Recounts (l : Lottery) (attempts : List Attempt) : Prop where
  coherent : l.Coherent
  records : ∀ act, act ≠ .sale → attempts.countP (·.grants act) = (l.kind.records act).toNat
  sold : ∀ a ∈ attempts, a.grants .sale = true → l.sold ≠ 0
  timely : ∀ a ∈ attempts, a.Timely l.deadline

theorem Recounts.tried (recounts : l.Recounts attempts) (tried : l.Tried operation result l') :
    l'.Recounts (attempts ++ [⟨operation, result⟩]) where
  coherent := tried.coherent recounts.coherent
  records := by
    intro act notSale
    rw [List.countP_append, recounts.records act notSale, tried.records notSale]
    cases granted : (Attempt.mk operation result).grants act <;> simp [granted]
  sold := by
    intro a mem sale
    apply tried.sold
    rcases List.mem_append.mp mem with before | last
    · exact .inl (recounts.sold a before sale)
    · exact .inr (List.mem_singleton.mp last ▸ sale)
  timely := by
    intro a mem
    rw [tried.sameTerms.deadline_eq]
    rcases List.mem_append.mp mem with before | last
    · exact recounts.timely a before
    · exact List.mem_singleton.mp last ▸ tried.timely

theorem recounts_of_launch {authority vault feeAccount mint : Key} {capacity deadline : UInt64}
    (launched : launch authority vault feeAccount mint capacity deadline slot = .ok l) :
    l.Recounts [] where
  coherent := coherent_of_launch launched
  records := by
    obtain ⟨-, -, rfl⟩ := launch_eq_ok_iff.mp launched
    intro act _
    cases act <;> rfl
  sold := by simp
  timely := by simp

theorem Recounts.after (recounts : l.Recounts []) (operations : List Operation) :
    (l.after operations).Recounts (l.attempts operations) := by
  apply course_induction (motive := fun attempts l' => l'.Recounts attempts) recounts
  intro attempts l' operation result l'' _ tried recounts
  exact recounts.tried tried

/-- What was granted, sales apart, shows in the kind. -/
theorem Recounts.granted_iff (recounts : l.Recounts attempts) {act : Act} (notSale : act ≠ .sale) :
    (∃ a ∈ attempts, a.grants act = true) ↔ l.kind.records act = true := by
  rw [← List.countP_pos_iff, recounts.records act notSale]
  cases l.kind.records act <;> decide

/-- A granted voiding leaves a voided lottery, and there nothing was sold or drawn. -/
theorem Recounts.voided (recounts : l.Recounts attempts)
    (voided : ∃ a ∈ attempts, a.grants .voiding = true) :
    ∀ a ∈ attempts, a.grants .sale = false ∧ a.grants .draw = false := by
  have kind : l.kind = .voided := by
    simpa [RecordKind.records] using (recounts.granted_iff (by decide)).mp voided
  intro a mem
  constructor
  · rw [← Bool.not_eq_true]
    intro sale
    exact recounts.sold a mem sale (recounts.coherent.unsold kind)
  · rw [← Bool.not_eq_true]
    intro draw
    have drawn := (recounts.granted_iff (by decide)).mp ⟨a, mem, draw⟩
    rw [kind] at drawn
    cases drawn

/-! ### The lifecycle -/

/-- The lifecycle of a lottery that was launched as `l`, as far as `operations` have taken it. -/
structure Lifecycle (l : Lottery) (operations : List Operation) : Prop where
  start : l.kind = .undrawn
  /-- One more operation takes the kind one step further or leaves it. -/
  kind : ∀ operation, (l.after (operations ++ [operation])).kind = (l.after operations).kind ∨
    RecordKind.Successor (l.after operations).kind (l.after (operations ++ [operation])).kind
  /-- Any more operations keep what is drawn, and the phase does not go back. -/
  advances : ∀ later, (l.after operations).Advances (l.after (operations ++ later))
  /-- The draws, settlements and voidings granted are one or none, as the kind says. -/
  records : ∀ act, act ≠ .sale →
    (l.attempts operations).countP (·.grants act) = ((l.after operations).kind.records act).toNat
  /-- Who voids has sold nothing and draws nothing. -/
  voided : (∃ a ∈ l.attempts operations, a.grants .voiding = true) →
    ∀ a ∈ l.attempts operations, a.grants .sale = false ∧ a.grants .draw = false
  unnumbered : (l.after operations).kind = .undrawn ∨ (l.after operations).kind = .voided →
    (l.after operations).number = 0 ∧ (l.after operations).winningNumber? = none
  numbered : (l.after operations).kind = .drawn ∨ (l.after operations).kind = .settled →
    (l.after operations).number < (l.after operations).sold ∧
      (l.after operations).winningNumber? = some (l.after operations).number
  timely : ∀ a ∈ l.attempts operations, a.Timely l.deadline

/-- Whatever is tried on a lottery from its launch on, it goes its one way. -/
theorem one_way_lifecycle {authority vault feeAccount mint : Key} {capacity deadline : UInt64}
    (launched : launch authority vault feeAccount mint capacity deadline slot = .ok l)
    (operations : List Operation) : l.Lifecycle operations := by
  have recounts := (recounts_of_launch launched).after operations
  constructor
  case start =>
    obtain ⟨-, -, rfl⟩ := launch_eq_ok_iff.mp launched
    rfl
  case kind =>
    intro operation
    rw [after_concat]
    exact (tried_perform _ operation).kind
  case advances =>
    intro later
    rw [after_append]
    exact advances_after _ later
  case records => exact recounts.records
  case voided => exact recounts.voided
  case unnumbered =>
    intro kind
    refine ⟨recounts.coherent.undrawn kind, ?_⟩
    rcases kind with kind | kind <;> rw [winningNumber?, kind]
  case numbered =>
    intro kind
    exact ⟨recounts.coherent.drawn kind, winningNumber?_eq_some_iff.mpr ⟨kind, rfl⟩⟩
  case timely =>
    rw [← (advances_after l operations).terms.deadline_eq]
    exact recounts.timely

/-- The sample lottery is drawn with the last number that it sold. -/
theorem one_way_lifecycle_of_sample :
    launch Sample.authority Sample.vault Sample.feeAccount Sample.mint 100 50 20 =
        .ok Sample.launched ∧
      Sample.launched.after Sample.course =
        { Sample.launched with kind := .drawn, number := 59, sold := 60 } ∧
      Sample.launched.Lifecycle Sample.course :=
  ⟨Sample.launch_eq, Sample.after_course, one_way_lifecycle Sample.launch_eq Sample.course⟩

end Lottery

end RangeLottery
