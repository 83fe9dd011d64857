import RangeLottery.Key

/-!
Base 58: the text form of a key. The bytes are read as one number, most significant byte first,
and its digits are taken from an alphabet without the easily confused `0`, `O`, `I` and `l`. A
number loses its leading zeros, so each leading zero byte is written as a `1` of its own.
-/

namespace RangeLottery.Base58

def alphabet : List Char :=
  "123456789ABCDEFGHJKLMNPQRSTUVWXYZabcdefghijkmnopqrstuvwxyz".toList

/-- The digits of `n`, most significant first, in front of `tail`; zero has none. -/
def digits (n : Nat) (tail : List Char) : List Char :=
  if n = 0 then tail else digits (n / 58) (alphabet.getD (n % 58) '1' :: tail)
termination_by n

def encode (bytes : Bytes) : String :=
  let zeros := bytes.takeWhile (· == 0)
  String.ofList (zeros.map (fun _ => '1') ++ digits (Bytes.toNatBigEndian bytes) [])

end RangeLottery.Base58

namespace RangeLottery

/-- The text form of a key. -/
def Key.text (k : Key) : String :=
  Base58.encode k.bytes

end RangeLottery
