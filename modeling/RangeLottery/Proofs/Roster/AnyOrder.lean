import RangeLottery.Proofs.Roster.Ranges

/-!
Rosters from lists in any order. Each holding is judged by those that are entered before it, and of these
by its two neighbours at that moment. Main statement: a list makes a roster exactly when its holdings are
ranges of the lottery's numbers, none empty and no two with a number in common. This does not depend on the
order of the list, and neither does the roster, since there is only one way to list its ranges in order.
-/

namespace RangeLottery

namespace Roster

variable {r r' : Roster} {lottery : Key} {holdings holdings' : List Holding} {reason : Refusal}

/-! ### From the roster back to the list -/

/-- Entries that were all taken are on the roster, which is sound with them. -/
theorem Sound.of_insertAll (sound : r.Sound) (entered : r.insertAll holdings = .ok r') :
    r'.Sound ∧ r'.lottery = r.lottery ∧ r'.holdings.Perm (holdings ++ r.holdings) := by
  induction holdings generalizing r with
  | nil =>
    cases entered
    exact ⟨sound, rfl, .refl _⟩
  | cons first rest ih =>
    rw [Roster.insertAll] at entered
    split at entered
    · cases entered
    · rename_i next granted
      obtain ⟨sound', lottery_eq, added⟩ := sound.insert granted
      obtain ⟨sound'', lottery_eq', perm⟩ := ih sound' entered
      refine ⟨sound'', lottery_eq'.trans lottery_eq, perm.trans ?_⟩
      exact (added.append_left rest).trans List.perm_middle

theorem of_ofHoldings (entered : ofHoldings lottery holdings = .ok r) :
    r.Sound ∧ r.lottery = lottery ∧ r.holdings.Perm holdings := by
  obtain ⟨sound, lottery_eq, perm⟩ := (sound_empty lottery).of_insertAll entered
  rw [show (empty lottery).holdings = [] from rfl, List.append_nil] at perm
  exact ⟨sound, lottery_eq, perm⟩

/-- Holdings are compatible exactly when they make a roster. -/
theorem exists_ofHoldings_iff :
    (∃ r, ofHoldings lottery holdings = .ok r) ↔ Compatible lottery holdings := by
  constructor
  · rintro ⟨r, entered⟩
    obtain ⟨sound, rfl, perm⟩ := of_ofHoldings entered
    exact sound.compatible.perm perm
  · intro compatible
    obtain ⟨r, entered, -⟩ := ofHoldings_of_compatible compatible
    exact ⟨r, entered⟩

/-- Compatible holdings are ranges that are disjoint in pairs. -/
theorem compatible_iff_disjoint :
    Compatible lottery holdings ↔
      (∀ h ∈ holdings, h.ticket.lottery = lottery) ∧
        (∀ h ∈ holdings, h.ticket.start < h.ticket.stop) ∧
          holdings.Pairwise fun h h' => h.ticket.Disjoint h'.ticket := by
  have pairs (nonempty : ∀ h ∈ holdings, h.ticket.start < h.ticket.stop) :
      (holdings.Pairwise fun h h' => h.ticket.Disjoint h'.ticket) ↔
        holdings.Pairwise fun h h' => h.ticket.Apart h'.ticket :=
    List.Pairwise.iff_of_mem fun mem mem' =>
      Ticket.disjoint_iff_apart (nonempty _ mem) (nonempty _ mem')
  constructor
  · intro compatible
    exact ⟨compatible.own, compatible.nonempty, (pairs compatible.nonempty).mpr compatible.apart⟩
  · rintro ⟨own, nonempty, disjoint⟩
    exact ⟨own, nonempty, (pairs nonempty).mp disjoint⟩

/-! ### One roster for all orders -/

/-- Sound rosters of one lottery with the same holdings are the same. -/
theorem Sound.eq_of_perm (sound : r.Sound) (sound' : r'.Sound) (lottery_eq : r.lottery = r'.lottery)
    (perm : r.holdings.Perm r'.holdings) : r = r' := by
  have listed : r.holdings = r'.holdings := by
    apply List.Perm.eq_of_pairwise ?_ sound.ordered sound'.ordered perm
    -- Of two ranges each would have to stop before the other starts.
    intro h h' mem mem' before behind
    exact absurd behind
      (Ticket.not_stop_le_start (sound.nonempty h mem) (sound'.nonempty h' mem') before)
  obtain ⟨lottery, holdings⟩ := r
  obtain ⟨lottery', holdings'⟩ := r'
  cases lottery_eq
  cases listed
  rfl

theorem ofHoldings_perm (entered : ofHoldings lottery holdings = .ok r)
    (perm : holdings.Perm holdings') : ofHoldings lottery holdings' = .ok r := by
  obtain ⟨sound, lottery_eq, listed⟩ := of_ofHoldings entered
  obtain ⟨r', entered'⟩ :=
    exists_ofHoldings_iff.mpr ((exists_ofHoldings_iff.mp ⟨r, entered⟩).perm perm)
  obtain ⟨sound', lottery_eq', listed'⟩ := of_ofHoldings entered'
  rw [entered', sound.eq_of_perm sound' (lottery_eq.trans lottery_eq'.symm)
    ((listed.trans perm).trans listed'.symm)]

theorem exists_reason_of_perm (refused : ofHoldings lottery holdings = .error reason)
    (perm : holdings.Perm holdings') : ∃ reason', ofHoldings lottery holdings' = .error reason' := by
  cases entered : ofHoldings lottery holdings' with
  | error reason' => exact ⟨reason', rfl⟩
  | ok r =>
    rw [ofHoldings_perm entered perm.symm] at refused
    cases refused

/-- What comes of entering `holdings` does not depend on their order. -/
structure EntersInAnyOrder (lottery : Key) (holdings : List Holding) : Prop where
  granted : (∃ r, ofHoldings lottery holdings = .ok r) ↔
    (∀ h ∈ holdings, h.ticket.lottery = lottery) ∧
      (∀ h ∈ holdings, h.ticket.start < h.ticket.stop) ∧
        holdings.Pairwise fun h h' => h.ticket.Disjoint h'.ticket
  listed : ∀ r, ofHoldings lottery holdings = .ok r →
    r.lottery = lottery ∧ r.holdings.Perm holdings ∧
      r.holdings.Pairwise fun h h' => h.ticket.start < h'.ticket.start
  reordered : ∀ holdings' r, holdings.Perm holdings' →
    ofHoldings lottery holdings = .ok r → ofHoldings lottery holdings' = .ok r
  refused : ∀ holdings' reason, holdings.Perm holdings' →
    ofHoldings lottery holdings = .error reason →
      ∃ reason', ofHoldings lottery holdings' = .error reason'

/-- Holdings make a roster when they are disjoint ranges of the lottery's numbers, and then the same roster
in every order: that of the listed holdings by their start. Otherwise they are refused in every order. -/
theorem enters_in_any_order (lottery : Key) (holdings : List Holding) :
    EntersInAnyOrder lottery holdings where
  granted := exists_ofHoldings_iff.trans compatible_iff_disjoint
  listed r entered := by
    obtain ⟨sound, lottery_eq, perm⟩ := of_ofHoldings entered
    exact ⟨lottery_eq, perm, sound.rangeSet.ordered⟩
  reordered _ _ perm entered := ofHoldings_perm entered perm
  refused _ _ perm refused := exists_reason_of_perm refused perm

/-- The reason of a refusal may depend on the order: it is that of the first holding that is refused. -/
example (account buyer : Key) :
    let lottery := Key.ofNat 1
    let foreign : Holding := ⟨account, ⟨.ofNat 2, buyer, 0, 5⟩⟩
    let blank : Holding := ⟨account, ⟨lottery, buyer, 7, 7⟩⟩
    ofHoldings lottery [foreign, blank] = .error .invalidAccount ∧
      ofHoldings lottery [blank, foreign] = .error .invalidTicketRange := by
  exact ⟨rfl, rfl⟩

end Roster

end RangeLottery
