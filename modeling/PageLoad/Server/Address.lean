import PageLoad.Url.Host

/-!
The addresses that a server listens at, written without brackets.
-/

namespace PageLoad.Server

inductive Address where
  | ipv4 (value : Nat)
  | ipv6 (pieces : List Nat)
  deriving DecidableEq, Repr

namespace Address

def parse? (text : String) : Option Address :=
  match (text.toList.splitOn '.').mapM Url.decimalByte? with
  | some [a, b, c, d] => some (.ipv4 (((a * 256 + b) * 256 + c) * 256 + d))
  | _ => (Url.ipv6? text.toList).map .ipv6

def text : Address → String
  | .ipv4 value => Host.ipv4Text value
  | .ipv6 [0, 0, 0, 0, 0, 0xFFFF, high, low] =>
    "::ffff:" ++ Host.ipv4Text (high * 65536 + low)
  | .ipv6 pieces => Host.ipv6Text pieces

def any : Address := .ipv4 0

end Address

end PageLoad.Server
