import PageLoad.Domain.Composition
import PageLoad.Domain.JoiningTable

/-!
Where the two zero-width joiners may stand in a label (RFC 5892, appendix A): after a virama,
and for the non-joiner also between two letters that would otherwise join.
-/

namespace PageLoad.Domain
open PageLoad.Text

def joinsLeft : CodePoints := CodePoints.ofText joinsLeftText

def joinsRight : CodePoints := CodePoints.ofText joinsRightText

def joinsBoth : CodePoints := CodePoints.ofText joinsBothText

def transparent : CodePoints := CodePoints.ofText transparentText

def viramaClass : Nat := 9

def reaches (one other : CodePoints) (text : List Char) : Bool :=
  match text.dropWhile (fun c => transparent.contains c.toNat) with
  | [] => false
  | c :: _ => one.contains c.toNat || other.contains c.toNat

def joinersAllowed (before : List Char) : List Char → Bool
  | [] => true
  | c :: rest =>
    let afterVirama := match before with
      | [] => false
      | previous :: _ => combiningClass previous = viramaClass
    let allowed :=
      if c = '\u200C' then
        afterVirama || (reaches joinsLeft joinsBoth before && reaches joinsRight joinsBoth rest)
      else if c = '\u200D' then afterVirama
      else true
    allowed && joinersAllowed (c :: before) rest

end PageLoad.Domain
