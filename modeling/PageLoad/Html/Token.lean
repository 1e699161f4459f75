import PageLoad.Html.Element
import PageLoad.Html.Reference

/-!
Tokens: the tags, texts, comments and document types that markup is made of.
-/

namespace PageLoad.Html

def isSpace (c : Char) : Bool :=
  c = ' ' || c = '\t' || c = '\n' || c = '\r' || c = '\x0C'

structure Tag where
  name : String
  attributes : List Attribute
  selfClosing : Bool
  deriving DecidableEq, Repr

structure Doctype where
  name : Option String
  publicId : Option String
  systemId : Option String
  forceQuirks : Bool
  deriving DecidableEq, Repr

inductive Token where
  | startTag (tag : Tag)
  | endTag (tag : Tag)
  | text (characters : List Char)
  | nul
  | comment
  | doctype (doctype : Doctype)
  | endOfFile
  deriving DecidableEq, Repr

def Tag.attribute? (tag : Tag) (name : String) : Option String :=
  (tag.attributes.find? (·.name = name)).map (·.value)

/-- What reading one piece of markup gives: the problems met, then the tokens, and the text
that is left. -/
structure Lexed where
  faults : List Fault
  tokens : List Token
  rest : List Char

def nulFaults (text : List Char) : List Fault :=
  (text.filter (· = '\x00')).map fun _ => .badCharacter

def withLineFeeds : List Char → List Char
  | '\r' :: '\n' :: rest | '\r' :: rest => '\n' :: withLineFeeds rest
  | c :: rest => c :: withLineFeeds rest
  | [] => []

end PageLoad.Html
