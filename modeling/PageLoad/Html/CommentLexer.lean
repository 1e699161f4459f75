import PageLoad.Html.Token

/-!
Reading a comment to its end. What it says is of no interest, only where it ends.
-/

namespace PageLoad.Html

inductive CommentPlace where
  | start
  | startDash
  | body
  | open1
  | open2
  | open3
  | open4
  | dash
  | dashes
  | dashesBang
  deriving DecidableEq

namespace CommentPlace

def inBody (c : Char) : CommentPlace :=
  if c = '<' then .open1 else if c = '-' then .dash else .body

def afterDash (c : Char) : CommentPlace := if c = '-' then .dashes else .body

def afterDashes (c : Char) : Option CommentPlace :=
  if c = '>' then none
  else if c = '!' then some .dashesBang
  else if c = '-' then some .dashes
  else some (inBody c)

def step (place : CommentPlace) (c : Char) : Option CommentPlace × List Fault :=
  let nul := nulFaults [c]
  match place with
  | .start =>
    if c = '-' then (some .startDash, [])
    else if c = '>' then (none, [.badCharacter])
    else (some .body, nul)
  | .startDash =>
    if c = '-' then (some .dashes, [])
    else if c = '>' then (none, [.badCharacter])
    else (some .body, nul)
  | .body => (some (inBody c), nul)
  | .open1 =>
    if c = '!' then (some .open2, [])
    else if c = '<' then (some .open1, [])
    else (some (inBody c), nul)
  | .open2 => if c = '-' then (some .open3, []) else (some (inBody c), nul)
  | .open3 => if c = '-' then (some .open4, []) else (some (afterDash c), nul)
  | .open4 => (afterDashes c, (if c = '>' then [] else [.badCharacter]) ++ nul)
  | .dash => (some (afterDash c), nul)
  | .dashes => (afterDashes c, nul)
  | .dashesBang =>
    if c = '-' then (some .dash, [])
    else if c = '>' then (none, [.badCharacter])
    else (some .body, nul)

end CommentPlace

/-- Reads a comment after its `<!--`, with the problems met so far, last first. -/
def readComment (place : CommentPlace) (faults : List Fault) : List Char → Lexed
  | [] => ⟨(.unexpectedEnd :: faults).reverse, [.comment], []⟩
  | c :: rest =>
    let (next, found) := place.step c
    let faults' := found.reverse ++ faults
    match next with
    | some place' => readComment place' faults' rest
    | none => ⟨faults'.reverse, [.comment], rest⟩

/-- Reads what is no markup but stands where markup should: up to the next `>`. -/
def readBogusComment (faults : List Fault) (text : List Char) : Lexed :=
  let skipped := text.takeWhile (· ≠ '>')
  ⟨faults ++ nulFaults skipped, [.comment], text.drop (skipped.length + 1)⟩

end PageLoad.Html
