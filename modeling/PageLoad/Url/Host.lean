import PageLoad.Domain.Name
import PageLoad.Url.Basic
import PageLoad.Url.Ipv4
import PageLoad.Url.Ipv6
import PageLoad.Url.Percent

/-!
Hosts. Those of special schemes are domain names or addresses. Those of other schemes are kept
as text, apart from addresses in brackets.
-/

namespace PageLoad.Url
open PageLoad.Text

def bracketedHost (text : List Char) : Except Error Host :=
  match text.getLast? with
  | some ']' =>
    match ipv6? (text.drop 1).dropLast with
    | some pieces => .ok (.ipv6 pieces)
    | none => .error .invalidIpv6
  | _ => .error .invalidIpv6

/-- The host of a special scheme: percent-decoded, then a domain name in ASCII, which is an
IPv4 address when it ends in a number. -/
def namedHost (text : List Char) : Except Error Host :=
  match (Utf8.decode (percentDecode text)).toOption.bind Domain.toAscii? with
  | none => .error .invalidName
  | some [] => .error .emptyHost
  | some name =>
    if endsInNumber name then
      match ipv4? name with
      | some address => .ok (.ipv4 address)
      | none => .error .invalidIpv4
    else .ok (.name (String.ofList name))

def forbiddenInAnyHost (c : Char) : Bool :=
  "\x00\t\n\r #/:<>?@[\\]^|".toList.contains c

def verbatimHost (text : List Char) : Except Error Host :=
  if text.any forbiddenInAnyHost then .error .invalidHostCharacter
  else .ok (.name (String.ofList (percentEncode isControlOrWide text)))

def parseHost (special : Bool) (text : List Char) : Except Error Host :=
  if text.head? = some '[' then bracketedHost text
  else if special then namedHost text
  else verbatimHost text

end PageLoad.Url
