import PageLoad.Html.Builder

/-!
Formatting elements, such as `b` and `a`, may overlap: when one ends inside another, the other
is closed with it and opened again.
-/

namespace PageLoad.Html

def sinceMarker (formatting : List Formatting) : List (Nat × Tag) :=
  match formatting with
  | .element id tag :: rest => (id, tag) :: sinceMarker rest
  | _ => []

def Formatting.hasId (id : Nat) : Formatting → Bool
  | .element other _ => other = id
  | .marker => false

def sortedAttributes (tag : Tag) : List Attribute :=
  tag.attributes.mergeSort fun a b => a.name ≤ b.name

namespace Builder

def addMarker (builder : Builder) : Builder :=
  { builder with formatting := .marker :: builder.formatting }

def clearToMarker (builder : Builder) : Builder :=
  { builder with formatting := (builder.formatting.dropWhile (· ≠ .marker)).drop 1 }

def removeFormatting (builder : Builder) (id : Nat) : Builder :=
  { builder with formatting := builder.formatting.eraseP (·.hasId id) }

def isOpen (builder : Builder) (id : Nat) : Bool := builder.stack.any (·.id = id)

def reopen (builder : Builder) : List (Nat × Tag) → Builder
  | [] => builder
  | (id, tag) :: rest =>
    let newId := builder.elements.size
    let inserted := builder.insert tag
    let formatting := inserted.formatting.map fun entry =>
      if entry.hasId id then .element newId tag else entry
    reopen { inserted with formatting } rest

def reconstruct (builder : Builder) : Builder :=
  let closed := (sinceMarker builder.formatting).takeWhile fun entry => !builder.isOpen entry.1
  builder.reopen closed.reverse

/-- Opens a formatting element. Of four that are alike, the earliest is forgotten. -/
def insertFormatting (builder : Builder) (tag : Tag) : Builder :=
  let alike := (sinceMarker builder.formatting).filter fun (_, old) =>
    old.name = tag.name && sortedAttributes old = sortedAttributes tag
  let kept := match alike.reverse with
    | (id, _) :: _ :: _ :: _ => builder.removeFormatting id
    | _ => builder
  let id := kept.elements.size
  let inserted := kept.insert tag
  { inserted with formatting := .element id tag :: inserted.formatting }

/-- An end tag that no rule of its own covers closes the innermost element of its name, unless
a special element stands in between. -/
def closeAny (builder : Builder) (name : String) : Builder :=
  match builder.stack.find? fun element => element.isNamed name || isSpecial element with
  | none => builder.unexpected
  | some found =>
    if !found.isNamed name then builder.report .specialWhileClosing
    else
      let implied := builder.closeImpliedExcept name
      let reported :=
        if implied.stack.head?.map (·.id) = some found.id then implied else implied.unexpected
      { reported with stack := (builder.stack.dropWhile (·.id ≠ found.id)).drop 1 }

structure Rebuilt where
  builder : Builder
  kept : List OpenElement
  bookmark : Option Nat

def replaceFormatting (builder : Builder) (old new : Nat) (tag : Tag) : Builder :=
  let formatting := builder.formatting.map fun entry =>
    if entry.hasId old then .element new tag else entry
  { builder with formatting }

def enterAfter (builder : Builder) (previous new : Nat) (tag : Tag) : Builder :=
  let enter (entry : Formatting) : List Formatting :=
    if entry.hasId previous then [.element new tag, entry] else [entry]
  { builder with formatting := builder.formatting.flatMap enter }

/-- Copies the formatting elements between a block and the formatting element outside it.
Others are closed, and so are formatting elements from the fourth. -/
def rebuild : Nat → List OpenElement → Rebuilt → Rebuilt
  | _, [], rebuilt => rebuilt
  | count, element :: rest, rebuilt =>
    match rebuilt.builder.formatting.find? (·.hasId element.id) with
    | some (.element _ tag) =>
      if 3 ≤ count then
        rebuild (count + 1) rest
          { rebuilt with builder := rebuilt.builder.removeFormatting element.id }
      else
        let id := rebuilt.builder.elements.size
        let copied := rebuilt.builder.insertIn .html tag false
        rebuild (count + 1) rest
          { builder := copied.replaceFormatting element.id id tag
            kept := rebuilt.kept ++ [⟨id, .html, tag.name⟩]
            bookmark := if rebuilt.kept = [] then some id else rebuilt.bookmark }
    | _ => rebuild (count + 1) rest rebuilt

/-- Ends a formatting element that has a block inside: the block takes a copy of it along. -/
def adoptBlock (builder : Builder) (id : Nat) (tag : Tag) (inner : List OpenElement)
    (block : OpenElement) (between below : List OpenElement) : Builder :=
  let rebuilt := rebuild 0 between ⟨builder, [], none⟩
  let copy := rebuilt.builder.elements.size
  let copied := rebuilt.builder.insertIn .html tag false
  let entered := match rebuilt.bookmark with
    | none => copied.replaceFormatting id copy tag
    | some previous => (copied.enterAfter previous copy tag).removeFormatting id
  { entered with stack := inner ++ ⟨copy, .html, tag.name⟩ :: block :: rebuilt.kept ++ below }

def adoptOnce (builder : Builder) (name : String) : Builder × Bool :=
  match (sinceMarker builder.formatting).find? (·.2.name = name) with
  | none => (builder.closeAny name, false)
  | some (id, tag) =>
    if !builder.isOpen id then
      ((builder.report .formattingNotOpen).removeFormatting id, false)
    else if !inScope defaultScope (·.id = id) builder.stack then
      (builder.report .formattingNotInScope, false)
    else
      let isCurrent := builder.stack.head?.map (·.id) = some id
      let builder := if isCurrent then builder else builder.report .formattingNotCurrent
      let above := builder.stack.takeWhile (·.id ≠ id)
      let below := (builder.stack.dropWhile (·.id ≠ id)).drop 1
      let between := (above.reverse.takeWhile (!isSpecial ·)).reverse
      match (above.reverse.dropWhile (!isSpecial ·)) with
      | [] => ({ builder with stack := below }.removeFormatting id, false)
      | block :: inner =>
        (builder.adoptBlock id tag inner.reverse block between below, true)

def adoptRounds (builder : Builder) (name : String) : Nat → Builder
  | 0 => builder
  | rounds + 1 =>
    match builder.adoptOnce name with
    | (next, true) => adoptRounds next name rounds
    | (next, false) => next

def endFormatting (builder : Builder) (name : String) : Builder :=
  let plainCurrent := builder.stack.head?.any fun current =>
    current.isNamed name && !builder.formatting.any (·.hasId current.id)
  if plainCurrent then builder.pop else builder.adoptRounds name 8

end Builder

end PageLoad.Html
