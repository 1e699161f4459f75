import PageLoad.Text.CodePoints
import PageLoad.Text.Utf8

/-!
Percent-encoding: which characters each part of a URL may hold as they are, and the bytes that
`%` and two hexadecimal digits stand for.
-/

namespace PageLoad.Url
open PageLoad.Text

def isControlOrWide (c : Char) : Bool := c.toNat < 0x20 || 0x7E < c.toNat

def fragmentEncodes (c : Char) : Bool :=
  isControlOrWide c || " \"<>`".toList.contains c

def queryEncodes (special : Bool) (c : Char) : Bool :=
  isControlOrWide c || " \"#<>".toList.contains c || (special && c = '\'')

def pathEncodes (c : Char) : Bool :=
  fragmentEncodes c || "#?\x7b\x7d".toList.contains c

def credentialEncodes (c : Char) : Bool :=
  pathEncodes c || "/:;=@[\\]^|".toList.contains c

def hexUpper (value : Nat) : Char :=
  if value < 10 then Char.ofNat ('0'.toNat + value) else Char.ofNat ('A'.toNat + (value - 10))

def percentByte (b : UInt8) : List Char :=
  ['%', hexUpper (b.toNat / 16), hexUpper (b.toNat % 16)]

def percentEncode (encodes : Char → Bool) (text : List Char) : List Char :=
  text.flatMap fun c =>
    if encodes c then (String.utf8EncodeChar c).flatMap percentByte else [c]

/-- The bytes of a text with its percent-encoding undone. A `%` without two digits stays. -/
def percentDecode : List Char → List UInt8
  | [] => []
  | '%' :: high :: low :: rest =>
    match hexDigit? high, hexDigit? low with
    | some h, some l => UInt8.ofNat (16 * h + l) :: percentDecode rest
    | _, _ => 0x25 :: percentDecode (high :: low :: rest)
  | c :: rest => String.utf8EncodeChar c ++ percentDecode rest
termination_by text => text.length

end PageLoad.Url
