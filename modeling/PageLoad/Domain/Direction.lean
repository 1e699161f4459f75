import PageLoad.Domain.DirectionTable
import PageLoad.Text.CodePoints

/-!
The rule for labels with right-to-left characters (RFC 5893). It applies to every label of a
name as soon as one label holds such a character.
-/

namespace PageLoad.Domain
open PageLoad.Text

inductive Direction where
  | leftToRight
  | rightToLeft
  | arabicLetter
  | arabicNumber
  | europeanNumber
  | nonspacingMark
  | neutral
  | control
  deriving DecidableEq

def directionTable : List (Direction × CodePoints) :=
  [(.rightToLeft, CodePoints.ofText rightToLeftText),
   (.arabicLetter, CodePoints.ofText arabicLetterText),
   (.arabicNumber, CodePoints.ofText arabicNumberText),
   (.europeanNumber, CodePoints.ofText europeanNumberText),
   (.nonspacingMark, CodePoints.ofText nonspacingMarkText),
   (.neutral, CodePoints.ofText europeanSeparatorText),
   (.neutral, CodePoints.ofText commonSeparatorText),
   (.neutral, CodePoints.ofText europeanTerminatorText),
   (.neutral, CodePoints.ofText otherNeutralText),
   (.neutral, CodePoints.ofText boundaryNeutralText),
   (.control, CodePoints.ofText directionControlText)]

def direction (c : Char) : Direction :=
  match directionTable.find? (fun entry => entry.2.contains c.toNat) with
  | some (value, _) => value
  | none => .leftToRight

def Direction.isRightToLeft : Direction → Bool
  | .rightToLeft | .arabicLetter | .arabicNumber => true
  | _ => false

def hasRightToLeft (label : List Char) : Bool :=
  label.any fun c => (direction c).isRightToLeft

def lastDirection? (classes : List Direction) : Option Direction :=
  (classes.reverse.dropWhile (· = .nonspacingMark)).head?

def leftToRightLabel (classes : List Direction) : Bool :=
  classes.all (fun d => d matches .leftToRight | .europeanNumber | .neutral | .nonspacingMark) &&
    (lastDirection? classes matches some .leftToRight | some .europeanNumber)

def rightToLeftLabel (classes : List Direction) : Bool :=
  classes.all (fun d => d != .leftToRight && d != .control) &&
    (lastDirection? classes matches
      some .rightToLeft | some .arabicLetter | some .europeanNumber | some .arabicNumber) &&
    !(classes.contains .europeanNumber && classes.contains .arabicNumber)

/-- A label opens with a letter; its direction decides what else it may hold. -/
def directionAllowed (label : List Char) : Bool :=
  let classes := label.map direction
  match classes with
  | [] => true
  | .leftToRight :: _ => leftToRightLabel classes
  | .rightToLeft :: _ | .arabicLetter :: _ => rightToLeftLabel classes
  | _ => false

end PageLoad.Domain
