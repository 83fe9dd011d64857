import RangeLottery.Key

/-!
The addresses that are fixed once for every ledger: the program that keeps the lotteries, the
wallet that collects its fees, the three programs it calls, and the account that holds the recent
slot hashes.
-/

namespace RangeLottery.Known

/-- The program that owns the lottery and ticket records. -/
def lotteryProgram : Key :=
  Key.ofNat 0x942095efde3b474d9c02877cf65e00ff7f9a951626b1f6858ee187ec5a513f88

/-- The wallet whose associated token account collects the fee of every lottery. -/
def feeCollector : Key :=
  Key.ofNat 0x1ce432918e14306383912d27a2e04038751375a9293c501a0408362b93feecbe

/-- The program that creates accounts and owns every plain wallet. -/
def systemProgram : Key :=
  Key.zero

/-- The program that owns the token accounts and mints. -/
def tokenProgram : Key :=
  Key.ofNat 0x06ddf6e1d765a193d9cbe146ceeb79ac1cb485ed5f5b37913a8cf5857eff00a9

/-- The program that opens a wallet's token account at its associated address. -/
def associatedTokenProgram : Key :=
  Key.ofNat 0x8c97258f4e2489f1bb3d1029148e0d830b5a1399daff1084048e7bd8dbe9f859

/-- The account that holds the recent slot hashes. -/
def slotHashes : Key :=
  Key.ofNat 0x06a7d517192f0aafc6f265e3fb77cc7ada82c529d0be3b136e2d005520000000

end RangeLottery.Known
