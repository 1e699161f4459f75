import PageLoad.Html.Token

/-!
Reading a document type after `<!doctype`.
-/

namespace PageLoad.Html

def dropWord? (word : List Char) (text : List Char) : Option (List Char) :=
  if (text.take word.length).map Char.toLower = word then some (text.drop word.length) else none

def replaceNul (text : List Char) : List Char :=
  text.map fun c => if c = '\x00' then '\uFFFD' else c

namespace Doctype

def finish (doctype : Doctype) (faults : List Fault) (rest : List Char) : Lexed :=
  ⟨faults, [.doctype doctype], rest⟩

def cutOff (doctype : Doctype) (faults : List Fault) : Lexed :=
  finish { doctype with forceQuirks := true } (faults ++ [.unexpectedEnd]) []

def skip (doctype : Doctype) (faults : List Fault) (text : List Char) : Lexed :=
  let skipped := text.takeWhile (· ≠ '>')
  doctype.finish (faults ++ nulFaults skipped) (text.drop (skipped.length + 1))

def spoil (doctype : Doctype) (faults : List Fault) (text : List Char) : Lexed :=
  skip { doctype with forceQuirks := true } (faults ++ [.badCharacter]) text

def cutShort (doctype : Doctype) (faults : List Fault) (rest : List Char) : Lexed :=
  finish { doctype with forceQuirks := true } (faults ++ [.badCharacter]) rest

inductive IdKind where
  | publicId
  | systemId

def withId (doctype : Doctype) (kind : IdKind) (id : List Char) : Doctype :=
  let value := some (String.ofList (replaceNul id))
  match kind with
  | .publicId => { doctype with publicId := value }
  | .systemId => { doctype with systemId := value }

def readId (doctype : Doctype) (kind : IdKind) (quote : Char) (faults : List Fault)
    (text : List Char) (next : Doctype → List Fault → List Char → Lexed) : Lexed :=
  let id := text.takeWhile fun c => c ≠ quote && c ≠ '>'
  let doctype := doctype.withId kind id
  let faults := faults ++ nulFaults id
  match text.drop id.length with
  | [] => doctype.cutOff faults
  | c :: rest => if c = quote then next doctype faults rest else doctype.cutShort faults rest

def afterSystemId (doctype : Doctype) (faults : List Fault) (text : List Char) : Lexed :=
  match text.dropWhile isSpace with
  | [] => doctype.cutOff faults
  | '>' :: rest => doctype.finish faults rest
  | text => doctype.skip (faults ++ [.badCharacter]) text

def afterPublicId (doctype : Doctype) (faults : List Fault) (text : List Char) : Lexed :=
  let spaced := (text.head?.map isSpace).getD false
  match text.dropWhile isSpace with
  | [] => doctype.cutOff faults
  | '>' :: rest => doctype.finish faults rest
  | c :: rest =>
    if c = '"' || c = '\'' then
      let faults := if spaced then faults else faults ++ [.badCharacter]
      doctype.readId .systemId c faults rest afterSystemId
    else doctype.spoil faults (c :: rest)

def afterKeyword (doctype : Doctype) (kind : IdKind) (faults : List Fault)
    (text : List Char) : Lexed :=
  let spaced := (text.head?.map isSpace).getD false
  match text.dropWhile isSpace with
  | [] => doctype.cutOff faults
  | '>' :: rest => doctype.cutShort faults rest
  | c :: rest =>
    if c = '"' || c = '\'' then
      let faults := if spaced then faults else faults ++ [.badCharacter]
      match kind with
      | .publicId => doctype.readId kind c faults rest afterPublicId
      | .systemId => doctype.readId kind c faults rest afterSystemId
    else doctype.spoil faults (c :: rest)

def afterName (doctype : Doctype) (faults : List Fault) (text : List Char) : Lexed :=
  let text := text.dropWhile isSpace
  match dropWord? "public".toList text with
  | some rest => doctype.afterKeyword .publicId faults rest
  | none =>
    match dropWord? "system".toList text with
    | some rest => doctype.afterKeyword .systemId faults rest
    | none =>
      match text with
      | [] => doctype.cutOff faults
      | '>' :: rest => doctype.finish faults rest
      | text => doctype.spoil faults text

end Doctype

def readDoctype (text : List Char) : Lexed :=
  let faults : List Fault := match text with
    | c :: _ => if isSpace c || c = '>' then [] else [.badCharacter]
    | [] => []
  let unnamed : Doctype := ⟨none, none, none, false⟩
  match text.dropWhile isSpace with
  | [] => unnamed.cutOff faults
  | '>' :: rest => unnamed.cutShort faults rest
  | named =>
    let name := named.takeWhile fun c => !isSpace c && c ≠ '>'
    let lowered := (replaceNul name).map Char.toLower
    let doctype := { unnamed with name := some (String.ofList lowered) }
    let faults := faults ++ nulFaults name
    match named.drop name.length with
    | [] => doctype.cutOff faults
    | '>' :: rest => doctype.finish faults rest
    | rest => doctype.afterName faults rest

end PageLoad.Html
