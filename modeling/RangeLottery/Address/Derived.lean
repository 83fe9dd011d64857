import RangeLottery.Address.Known
import RangeLottery.Curve
import RangeLottery.Hash.Sha256

/-!
Derived addresses. A program derives an address from seeds by hashing them with a bump byte and its
own key; the bump is lowered from 255 until the digest is no curve point, so that no private key can
sign for the address and only the program can. The custody address of a lottery and the associated
token account of a wallet are derived this way. Distinct seeds may in principle share an address:
statements that need distinct addresses assume them. Main statements: a derived address is the digest
of its seeds and its bump, and it is no curve point if any bump leads off the curve.
-/

namespace RangeLottery.Address

/-- A derived address and the bump that led to it. -/
structure Derived where
  address : Key
  bump : UInt8
  deriving DecidableEq, Repr

/-- The digest of `seeds` under `program`. -/
def digest (seeds : List Bytes) (program : Key) : Key :=
  Sha256.hash (seeds.flatten ++ program.bytes ++ Bytes.ofAscii "ProgramDerivedAddress")

/-- The digest that `program` derives from `seeds` with `bump` as the last seed. -/
def candidate (seeds : List Bytes) (program : Key) (bump : UInt8) : Key :=
  digest (seeds ++ [[bump]]) program

/-- The candidate of the greatest bump, `bump` or less, that is no curve point. Bump zero is not
tried. -/
def search? (seeds : List Bytes) (program : Key) : Nat → Option Derived
  | 0 => none
  | bump + 1 =>
    let address := candidate seeds program (UInt8.ofNat (bump + 1))
    if Curve.isPoint address then search? seeds program bump
    else some ⟨address, UInt8.ofNat (bump + 1)⟩

/-- The address that `program` derives from `seeds`. Where the search finds none the program would
stop, and here bump zero stands in. This cannot matter in practice: all 255 candidates would have to be
curve points, as about half of all digests are, and nobody knows such seeds. -/
def derive (seeds : List Bytes) (program : Key) : Derived :=
  (search? seeds program 255).getD ⟨candidate seeds program 0, 0⟩

section Derivation

variable {seeds : List Bytes} {program : Key} {bound : Nat} {bump : UInt8} {d : Derived}

theorem candidate_of_search? (found : search? seeds program bound = some d) :
    candidate seeds program d.bump = d.address ∧ Curve.isPoint d.address = false := by
  fun_induction search? seeds program bound with
  | case1 => cases found
  | case2 bump address point ih => exact ih found
  | case3 bump address offCurve =>
    cases found
    exact ⟨rfl, Bool.eq_false_iff.mpr offCurve⟩

theorem isPoint_of_search?_eq_none (missed : search? seeds program bound = none)
    (positive : 0 < bump) (tried : bump.toNat ≤ bound) :
    Curve.isPoint (candidate seeds program bump) = true := by
  fun_induction search? seeds program bound with
  | case1 => exact absurd (UInt8.lt_iff_toNat_lt.mp positive) (Nat.not_lt.mpr tried)
  | case2 bound address point ih =>
    rcases Nat.le_succ_iff.mp tried with earlier | last
    · exact ih missed earlier
    · obtain rfl : bump = UInt8.ofNat (bound + 1) :=
        UInt8.ofNat_toNat.symm.trans (congrArg UInt8.ofNat last)
      exact point
  | case3 => cases missed

/-- A derived address is the digest of its seeds and its bump. -/
theorem candidate_derive (seeds : List Bytes) (program : Key) :
    candidate seeds program (derive seeds program).bump = (derive seeds program).address := by
  unfold derive
  cases found : search? seeds program 255 with
  | none => rfl
  | some d => exact (candidate_of_search? found).1

/-- A derived address is no curve point, unless all bumps but zero lead to one. -/
theorem isPoint_derive (positive : 0 < bump)
    (offCurve : Curve.isPoint (candidate seeds program bump) = false) :
    Curve.isPoint (derive seeds program).address = false := by
  unfold derive
  cases found : search? seeds program 255 with
  | none =>
    rw [isPoint_of_search?_eq_none found positive (Nat.le_of_lt_succ bump.toNat_lt)] at offCurve
    cases offCurve
  | some d => exact (candidate_of_search? found).2

end Derivation

/-- The first seed of every custody address. -/
def custodyLabel : Bytes :=
  Bytes.ofAscii "custody"

/-- The address that signs for the purchases of `lottery`, derived by `program`. -/
def custodyUnder (program lottery : Key) : Derived :=
  derive [custodyLabel, lottery.bytes] program

/-- The address that signs for the purchases of `lottery`. -/
def custody (lottery : Key) : Derived :=
  custodyUnder Known.lotteryProgram lottery

/-- The address of the token account that `wallet` keeps for `mint`. -/
def associated (wallet mint : Key) : Key :=
  (derive [wallet.bytes, Known.tokenProgram.bytes, mint.bytes] Known.associatedTokenProgram).address

end RangeLottery.Address
