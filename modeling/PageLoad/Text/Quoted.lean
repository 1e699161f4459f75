import PageLoad.Text.CodePoints
import PageLoad.Text.PrintableTable

/-!
Text in double quotes, as messages show it: a quote, a backslash and the characters that would
not be seen as themselves are escaped.
-/

namespace PageLoad.Text

def extendingPoints : CodePoints := CodePoints.ofText extendingText

def unprintedPoints : CodePoints := CodePoints.ofText unprintedText

def hexText (n : Nat) : List Char := Nat.toDigits 16 n

def escapeChar (c : Char) : List Char :=
  if c = '\x00' then ['\\', '0']
  else if c = '\t' then ['\\', 't']
  else if c = '\r' then ['\\', 'r']
  else if c = '\n' then ['\\', 'n']
  else if c = '"' then ['\\', '"']
  else if c = '\\' then ['\\', '\\']
  else if extendingPoints.contains c.toNat || unprintedPoints.contains c.toNat then
    "\\u\x7b".toList ++ hexText c.toNat ++ ['\x7d']
  else [c]

def quoted (text : List Char) : List Char :=
  '"' :: text.flatMap escapeChar ++ ['"']

def quote (text : String) : String := String.ofList (quoted text.toList)

end PageLoad.Text
