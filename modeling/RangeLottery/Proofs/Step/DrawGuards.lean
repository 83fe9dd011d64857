import RangeLottery.Proofs.Run.Moment
import RangeLottery.Proofs.SlotHistory.InPlace
import RangeLottery.Proofs.Step.Answer

/-!
The guards of a draw. A draw first asks whether the lottery can be drawn and then for the checkpoint of its
deadline. The drawing of the number asks again whether the lottery can be drawn, asks whether the sample is
younger than the deadline and asks whether anything was sold. Main statement: the later guards let through
whatever has passed the first two, so a draw is refused for the reasons of these two and for no other, and
it does not fail once it has its sample.
-/

namespace RangeLottery

open Session

namespace Lottery

variable {l : Lottery} {id : Key} {history : Bytes} {slot number : UInt64} {sample : SlotHash}
  {reason : Refusal}

/-- What a draw at `slot` finds out before it draws: that the lottery can be drawn, and the sample. -/
def sampleFrom (l : Lottery) (history : Bytes) (slot : UInt64) : Except Refusal SlotHash := do
  l.readyToDraw slot
  SlotHistory.checkpoint history l.deadline

/-- The later guards of a draw let it through, and it leaves the lottery drawn at `number`. -/
structure DrawsSafely (l : Lottery) (id : Key) (sample : SlotHash) (slot number : UInt64) : Prop where
  ready : l.readyToDraw slot = .ok ()
  younger : ¬ sample.slot ≤ l.deadline
  derived : WinningNumber.derive sample.hash id l.sold = .ok number
  number_lt : number < l.sold
  drawn : l.draw id sample slot = (.ok number, { l with number, kind := .drawn })

theorem sampleFrom_eq_ok_iff :
    l.sampleFrom history slot = .ok sample ↔
      l.readyToDraw slot = .ok () ∧ SlotHistory.checkpoint history l.deadline = .ok sample := by
  simp only [sampleFrom, Except.bind_eq_ok_iff, exists_and_right]
  exact and_congr_left fun _ => ⟨fun ⟨_, ready⟩ => ready, fun ready => ⟨_, ready⟩⟩

/-- A draw that passed its two checks draws a number. -/
theorem exists_drawsSafely (ready : l.readyToDraw slot = .ok ())
    (found : SlotHistory.checkpoint history l.deadline = .ok sample) (id : Key) :
    ∃ number, l.DrawsSafely id sample slot number := by
  obtain ⟨position, checkpoint⟩ := SlotHistory.exists_checkpointAt found
  have drawable := readyToDraw_eq_ok_iff.mp ready
  have derived : WinningNumber.derive sample.hash id l.sold =
      .ok (UInt64.ofNat (WinningNumber.mix sample.hash id % l.sold.toNat)) :=
    if_neg drawable.2.2
  have drawn := draw_eq_ok_iff.mpr ⟨drawable, checkpoint.past, derived, rfl⟩
  exact ⟨_, {
    ready := ready
    younger := UInt64.not_le.mpr checkpoint.past
    derived := derived
    number_lt := number_lt_sold_of_draw drawn
    drawn := drawn }⟩

/-- A draw is answered as its two checks are. -/
theorem answer_drawFrom (l : Lottery) (id : Key) (history : Bytes) (slot : UInt64) :
    Step.answer (l.drawFrom id history slot) = Step.answer (l.sampleFrom history slot) := by
  unfold drawFrom sampleFrom
  cases ready : l.readyToDraw slot with
  | error reason => rfl
  | ok u =>
    cases found : SlotHistory.checkpoint history l.deadline with
    | error reason => rfl
    | ok sample =>
      obtain ⟨number, safe⟩ := exists_drawsSafely ready found id
      change Step.answer (l.draw id sample slot).1 = .ok ()
      rw [safe.drawn]
      rfl

end Lottery

namespace Drawing

variable {slot : UInt64} {entries : List Entry} {a : Accounts} {l : Lottery} {b : Book}

/-- The accounts of a draw are in order, and its lottery account holds `l`. -/
structure InOrder (b : Book) (entries : List Entry) (a : Accounts) (l : Lottery) : Prop where
  loaded : load entries = .ok a
  checked : check b a = .ok ()
  recorded : (b.account a.lottery.key).lottery? = some l

/-- A draw that is done leaves the lottery account drawn at `number`. -/
structure Leaves (l : Lottery) (a : Accounts) (sample : SlotHash) (slot number : UInt64)
    (p q : Progress) : Prop where
  drawn : l.DrawsSafely a.lottery.key sample slot number
  recorded : (q.book.account a.lottery.key).lottery? = some { l with number, kind := .drawn }
  announced : q.events = p.events ++ [.drawn a.lottery.key number sample.slot l.sold]

theorem run_result_of_inOrder {p : Progress} (inOrder : InOrder p.book entries a l) :
    (runOn (run slot entries) p).1 =
      Step.answer (l.sampleFrom (p.book.account a.slotHashes.key).data slot) := by
  rw [run_result inOrder.loaded inOrder.checked inOrder.recorded, Lottery.answer_drawFrom]

theorem exists_leaves {p : Progress} {sample : SlotHash} (inOrder : InOrder p.book entries a l)
    (found : l.sampleFrom (p.book.account a.slotHashes.key).data slot = .ok sample) :
    ∃ number q, runOn (run slot entries) p = (.ok (), q) ∧ Leaves l a sample slot number p q := by
  have result : (runOn (run slot entries) p).1 = .ok () := by
    rw [run_result_of_inOrder inOrder, found]
    rfl
  obtain ⟨q, done⟩ := exists_runOn_eq result
  obtain ⟨a', l', l'', sample', effect, announced⟩ := run_spec done
  obtain ⟨ready, picked⟩ := Lottery.sampleFrom_eq_ok_iff.mp found
  -- What the run has read is what the accounts hold.
  obtain rfl : a = a' := Except.ok.inj (inOrder.loaded.symm.trans effect.loaded)
  obtain rfl : l = l' := Option.some.inj (inOrder.recorded.symm.trans effect.rewritten.before)
  obtain ⟨-, -, sysvar⟩ := check_eq_ok_iff.mp inOrder.checked
  rw [sysvar, effect.checkpoint] at picked
  obtain rfl := Except.ok.inj picked
  obtain ⟨number, safe⟩ := Lottery.exists_drawsSafely ready effect.checkpoint a.lottery.key
  obtain ⟨drawn, left⟩ := Prod.mk.inj (safe.drawn.symm.trans effect.granted)
  refine ⟨number, q, done, safe, ?_, ?_⟩
  · rw [effect.rewritten.lotteries, if_pos rfl, left]
  · rw [announced, ← left]

end Drawing

/-- A draw cannot fail late. Whatever the record and the bytes of the slot hashes are, a lottery that can be
drawn and a checkpoint give a number below the numbers sold; so the draw of a lottery account that could be
read answers what its two checks answer, and when they answer with a sample, the account is drawn. -/
theorem draw_never_fails_late (l : Lottery) (slot : UInt64) :
    (∀ id history sample, l.readyToDraw slot = .ok () →
        SlotHistory.checkpoint history l.deadline = .ok sample →
          ∃ number, l.DrawsSafely id sample slot number) ∧
      ∀ entries a (p : Progress), Drawing.InOrder p.book entries a l →
        (runOn (Drawing.run slot entries) p).1 =
            Step.answer (l.sampleFrom (p.book.account a.slotHashes.key).data slot) ∧
          ∀ sample, l.sampleFrom (p.book.account a.slotHashes.key).data slot = .ok sample →
            ∃ number q, runOn (Drawing.run slot entries) p = (.ok (), q) ∧
              Drawing.Leaves l a sample slot number p q :=
  ⟨fun id _ _ ready found => Lottery.exists_drawsSafely ready found id,
    fun _ _ _ inOrder => ⟨Drawing.run_result_of_inOrder inOrder,
      fun _ found => Drawing.exists_leaves inOrder found⟩⟩

/-- The accounts of the sample draw. -/
def Sample.drawingAccounts : Drawing.Accounts :=
  ⟨.mutable lottery, .signing authority, .reading Known.slotHashes⟩

/-- A lottery that ends at slot 10 is drawn from a history that is out of order. The sample lottery is drawn
once its deadline has a checkpoint, and before that the draw is refused as the checkpoint is. -/
theorem draw_never_fails_late_for_sample :
    (∃ number, { Sample.launched with deadline := 10, sold := 40 }.DrawsSafely Sample.lottery
        ⟨20, .ofNat 2⟩ 60 number) ∧
      (runOn (Drawing.run 60 Sample.drawing.step.call.accounts)
          (.start (Sample.drawing.book Sample.purchased))).1 = .ok () ∧
        (runOn (Drawing.run 60 Sample.drawing.step.call.accounts) (.start Sample.purchased)).1 =
          .error (.bare (.refusal .lotteryStillOpen)) := by
  obtain ⟨draws, -⟩ := draw_never_fails_late { Sample.launched with deadline := 10, sold := 40 } 60
  obtain ⟨-, answers⟩ := draw_never_fails_late { Sample.launched with sold := 40 } 60
  have inOrder (b : Book) (checked : Drawing.check b Sample.drawingAccounts = .ok ())
      (recorded : (b.account Sample.lottery).lottery? = some { Sample.launched with sold := 40 }) :
      Drawing.InOrder b Sample.drawing.step.call.accounts Sample.drawingAccounts
        { Sample.launched with sold := 40 } :=
    ⟨Drawing.load_eq_ok_iff.mpr ⟨rfl, rfl, rfl, rfl⟩, checked, recorded⟩
  have open' : Lottery.sampleFrom { Sample.launched with sold := 40 }
      (Sample.purchased.account Known.slotHashes).data 60 = .error .lotteryStillOpen := by
    decide +kernel
  refine ⟨draws _ (SlotHistory.encode SlotHistory.shuffled) _ (by decide) (by decide +kernel), ?_, ?_⟩
  · obtain ⟨-, done⟩ := answers _ _ (.start (Sample.drawing.book Sample.purchased))
      (inOrder _ (by decide +kernel) (by decide +kernel))
    obtain ⟨number, q, ran, -⟩ := done ⟨51, .ofNat 102⟩ (by decide +kernel)
    rw [ran]
  · obtain ⟨result, -⟩ := answers _ _ (.start Sample.purchased)
      (inOrder _ (by decide +kernel) (by decide +kernel))
    rw [result]
    exact congrArg Step.answer open'

end RangeLottery
