import PageLoad.Domain.Direction
import PageLoad.Domain.Joining
import PageLoad.Domain.Mapping
import PageLoad.Domain.Punycode

/-!
Domain names in the ASCII form that goes into a URL.

A name is mapped, composed and split at full stops. A label that opens with `xn--` is decoded
and must decode to text that the mapping leaves alone. Labels are then checked, and those with
characters above ASCII are encoded again. Hyphens are not restricted, nor the lengths of names,
but labels are encoded and decoded up to some length only.
-/

namespace PageLoad.Domain

def forbiddenInHost (c : Char) : Bool :=
  c.toNat ≤ 0x20 || c.toNat = 0x7F || "#/:<>?@[\\]^|%".toList.contains c

def isAscii (c : Char) : Bool := c.toNat < 0x80

def maxDecodedLength : Nat := 1000

def maxEncodedLength : Nat := 2000

/-- Decodes a label that opens with `xn--`. What it decodes to must hold a character above
ASCII and be stable under mapping and composition. -/
def decodeLabel? (label : List Char) : Option (List Char) :=
  match label with
  | 'x' :: 'n' :: '-' :: '-' :: encoded => do
    if !encoded.all isAscii || maxEncodedLength < encoded.length then none
    else
      let decoded ← Punycode.decode? encoded
      let mapped ← mapName? decoded
      if decoded.all isAscii || normalize mapped != decoded then none else some decoded
  | _ => if !label.all isAscii && maxDecodedLength < label.length then none else some label

/-- What holds of every label alone: no forbidden character, no mark in front, and joiners
only where they join. -/
def labelAllowed (label : List Char) : Bool :=
  !label.any forbiddenInHost && !(label.take 1).any isMark && joinersAllowed [] label

def encodeLabel (label : List Char) : List Char :=
  if label.all isAscii then label else 'x' :: 'n' :: '-' :: '-' :: Punycode.encode label

def toAscii? (name : List Char) : Option (List Char) := do
  let mapped ← mapName? name
  let labels ← ((normalize mapped).splitOn '.').mapM decodeLabel?
  if !labels.all labelAllowed then none
  else if labels.any hasRightToLeft && !labels.all directionAllowed then none
  else some (List.intercalate ['.'] (labels.map encodeLabel))

end PageLoad.Domain
