import RangeLottery.Proofs.Step.Record
import RangeLottery.Step.Voiding

/-!
What a granted voiding does: the authority of the lottery signed, and the record is voided. Nothing
else in the book differs.
-/

namespace RangeLottery

namespace Voiding

open Session

variable {slot : UInt64} {entries : List Entry} {a : Accounts} {p q : Progress} {u : Unit}

theorem load_eq_ok_iff :
    load entries = .ok a ↔
      entries[0]? = some a.lottery ∧ entries[1]? = some a.authority ∧
        a.authority.signer = true := by
  obtain ⟨lottery, authority⟩ := a
  simp only [load, Except.bind_eq_ok_iff, Check.entry_eq_ok_iff, Check.signer_eq_ok_iff, pure,
    Except.pure, Except.ok.injEq, Accounts.mk.injEq]
  constructor
  · rintro ⟨_, listed, _, ⟨listed', signs⟩, rfl, rfl⟩
    exact ⟨listed, listed', signs⟩
  · rintro ⟨listed, listed', signs⟩
    exact ⟨lottery, listed, authority, ⟨listed', signs⟩, rfl, rfl⟩

theorem check_eq_ok_iff {b : Book} :
    check b a = .ok u ↔
      a.lottery.writable = true ∧
        (b.account a.lottery.key).owner = Known.lotteryProgram := by
  simp [check, Except.bind_eq_ok_iff]

/-- A granted voiding of `l`. -/
structure Effect (slot : UInt64) (entries : List Entry) (a : Accounts) (l l' : Lottery)
    (b c : Book) : Prop where
  loaded : load entries = .ok a
  writable : a.lottery.writable = true
  authorized : a.authority.key = l.authority
  granted : l.void slot = (.ok (), l')
  rewritten : b.Rewritten c a.lottery.key l l'

theorem run_spec (done : runOn (run slot entries) p = (.ok u, q)) :
    ∃ a l l', Effect slot entries a l l' p.book q.book ∧
      q.events = p.events ++ [.voided a.lottery.key l'.deadline] := by
  simp only [run, pass_bind_eq_ok_iff, book_bind_eq_ok_iff, readLottery_bind_eq_ok_iff,
    accept_bind_eq_ok_iff, saveLottery_bind_eq_ok_iff, remark_bind_eq_ok_iff,
    runOn_announce, Prod.mk.injEq] at done
  obtain ⟨a, loaded, _, checked, l, decoded, _, authorized, _, closed, -, -, rfl⟩ := done
  obtain ⟨writable, owned⟩ := check_eq_ok_iff.mp checked
  have before : (p.book.account a.lottery.key).lottery? = some l := by
    simpa [Account.lottery?, owned] using decoded
  have granted : l.void slot = (.ok (), (l.void slot).2) := Prod.ext closed rfl
  have storable := Lottery.storable_of_void (Account.lottery?_eq_some_iff.mp before).2.1 granted
  exact ⟨a, l, _, {
    loaded := loaded
    writable := writable
    authorized := Lottery.authorize_eq_ok_iff.mp authorized
    granted := granted
    rewritten := Book.rewritten_write before storable }, rfl⟩

end Voiding

end RangeLottery
