import RangeLottery.Proofs.Step.Record
import RangeLottery.Step.Drawing

/-!
What a granted draw does: the record gets the number that is drawn from the checkpoint of its deadline
in the slot hashes of the book, and nothing else in the book differs.
-/

namespace RangeLottery

namespace Drawing

open Session

variable {slot : UInt64} {entries : List Entry} {a : Accounts} {p q : Progress} {u : Unit}

theorem load_eq_ok_iff :
    load entries = .ok a ↔
      entries[0]? = some a.lottery ∧ entries[1]? = some a.caller ∧ a.caller.signer = true ∧
        entries[2]? = some a.slotHashes := by
  obtain ⟨lottery, caller, slotHashes⟩ := a
  simp only [load, Except.bind_eq_ok_iff, Check.entry_eq_ok_iff, Check.signer_eq_ok_iff, pure,
    Except.pure, Except.ok.injEq, Accounts.mk.injEq]
  constructor
  · rintro ⟨_, listed, _, ⟨listed', signs⟩, _, listed'', rfl, rfl, rfl⟩
    exact ⟨listed, listed', signs, listed''⟩
  · rintro ⟨listed, listed', signs, listed''⟩
    exact ⟨lottery, listed, caller, ⟨listed', signs⟩, slotHashes, listed'', rfl, rfl, rfl⟩

theorem check_eq_ok_iff {b : Book} :
    check b a = .ok u ↔
      a.lottery.writable = true ∧
        (b.account a.lottery.key).owner = Known.lotteryProgram ∧
        a.slotHashes.key = Known.slotHashes := by
  simp [check, Except.bind_eq_ok_iff]

/-- A granted draw of `l` from `sample`. -/
structure Effect (slot : UInt64) (entries : List Entry) (a : Accounts) (l l' : Lottery)
    (sample : SlotHash) (b c : Book) : Prop where
  loaded : load entries = .ok a
  writable : a.lottery.writable = true
  checkpoint : SlotHistory.checkpoint (b.account Known.slotHashes).data l.deadline = .ok sample
  granted : l.draw a.lottery.key sample slot = (.ok l'.number, l')
  rewritten : b.Rewritten c a.lottery.key l l'

theorem run_spec (done : runOn (run slot entries) p = (.ok u, q)) :
    ∃ a l l' sample, Effect slot entries a l l' sample p.book q.book ∧
      q.events = p.events ++ [.drawn a.lottery.key l'.number sample.slot l'.sold] := by
  simp only [run, pass_bind_eq_ok_iff, book_bind_eq_ok_iff, readLottery_bind_eq_ok_iff,
    accept_bind_eq_ok_iff, saveLottery_bind_eq_ok_iff, remark_bind_eq_ok_iff,
    remarkAll_bind_eq_ok_iff, runOn_announce, Prod.mk.injEq] at done
  obtain ⟨a, loaded, _, checked, l, decoded, _, -, sample, found, number, drawn, -, -, rfl⟩ := done
  obtain ⟨writable, owned, sysvar⟩ := check_eq_ok_iff.mp checked
  have before : (p.book.account a.lottery.key).lottery? = some l := by
    simpa [Account.lottery?, owned] using decoded
  have granted : l.draw a.lottery.key sample slot =
      (.ok number, (l.draw a.lottery.key sample slot).2) := Prod.ext drawn rfl
  have storable := Lottery.storable_of_draw (Account.lottery?_eq_some_iff.mp before).2.1 granted
  have number_eq : (l.draw a.lottery.key sample slot).2.number = number := by
    obtain ⟨-, -, -, after⟩ := Lottery.draw_eq_ok_iff.mp granted
    rw [after]
  refine ⟨a, l, (l.draw a.lottery.key sample slot).2, sample, {
    loaded := loaded
    writable := writable
    checkpoint := sysvar ▸ found
    granted := by rw [number_eq]; exact granted
    rewritten := Book.rewritten_write before storable }, ?_⟩
  rw [number_eq]

end Drawing

end RangeLottery
