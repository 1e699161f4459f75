import PageLoad.Text.Quoted

/-!
JSON text of the few kinds that output lines are made of.
-/

namespace PageLoad.Text.Json

def escapeChar (c : Char) : List Char :=
  if c = '"' then ['\\', '"']
  else if c = '\\' then ['\\', '\\']
  else if c = '\x08' then ['\\', 'b']
  else if c = '\x09' then ['\\', 't']
  else if c = '\x0A' then ['\\', 'n']
  else if c = '\x0C' then ['\\', 'f']
  else if c = '\x0D' then ['\\', 'r']
  else if c.toNat < 16 then ['\\', 'u', '0', '0', '0'] ++ hexText c.toNat
  else if c.toNat < 32 then ['\\', 'u', '0', '0'] ++ hexText c.toNat
  else [c]

def string (text : String) : String :=
  String.ofList ('"' :: text.toList.flatMap escapeChar ++ ['"'])

def object (members : List (String × String)) : String :=
  "\x7b" ++ String.intercalate "," (members.map fun (name, value) => string name ++ ":" ++ value)
    ++ "\x7d"

end PageLoad.Text.Json
