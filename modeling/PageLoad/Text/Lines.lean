import PageLoad.Text.Utf8

/-!
The lines of an input. A line ends with a line feed, and loses it and a carriage return in
front of it; what follows the last line feed is a line too, unless it is empty.
-/

namespace PageLoad.Text

def rawLines : List UInt8 → List (List UInt8)
  | [] => []
  | b :: rest =>
    if b = 0x0A then [b] :: rawLines rest
    else
      match rawLines rest with
      | [] => [[b]]
      | line :: lines => (b :: line) :: lines

def dropLineEnd (line : List UInt8) : List UInt8 :=
  match line.reverse with
  | 0x0A :: 0x0D :: start | 0x0A :: start => start.reverse
  | _ => line

/-- The lines of an input up to the first that is no text. -/
structure Lines where
  lines : List String
  flaw : Option Utf8.Flaw
  deriving DecidableEq, Repr

/-- Reads lines in order. Each loses its end before it is decoded, so a character that is cut off there is
incomplete, as it is at the end of the input. -/
def Lines.read : List (List UInt8) → Lines
  | [] => ⟨[], none⟩
  | raw :: rest =>
    match Utf8.decode (dropLineEnd raw) with
    | .error flaw => ⟨[], some flaw⟩
    | .ok text =>
      let after := Lines.read rest
      { after with lines := String.ofList text :: after.lines }

def Lines.ofBytes (input : List UInt8) : Lines := Lines.read (rawLines input)

end PageLoad.Text
