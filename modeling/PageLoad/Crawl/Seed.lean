import PageLoad.Text.Blank
import PageLoad.Text.Quoted
import PageLoad.Url.Parse

/-!
Seeds: the pages that a crawl starts from, one on each line of its input, as a rank, a comma and
a host or URL.
-/

namespace PageLoad.Crawl
open PageLoad.Text

structure Seed where
  rank : String
  url : Url
  deriving DecidableEq, Repr

inductive SeedError where
  | missingComma (line : String)
  | emptyUrl (line : String)
  | invalidUrl (candidate : String) (cause : Url.Error)
  deriving DecidableEq, Repr

def SeedError.message : SeedError → String
  | .missingComma line => "expected `rank,url` but found no comma in " ++ quote line
  | .emptyUrl line => "seed line " ++ quote line ++ " has an empty url"
  | .invalidUrl candidate cause =>
    "invalid seed url " ++ quote candidate ++ ": " ++ cause.message

/-- Whether a text opens with a scheme and `://`. One further on, say in a query, does not
count. -/
def opensWithScheme : List Char → Bool
  | first :: rest =>
    first.isAlpha &&
      match rest.dropWhile Url.isSchemeChar with
      | ':' :: '/' :: '/' :: _ => true
      | _ => false
  | [] => false

/-- The URL that a host or URL stands for. A bare host is looked for under `www`. -/
def seedUrl (target : String) : Except SeedError Url :=
  let candidate := if opensWithScheme target.toList then target else "http://www." ++ target
  match Url.parse candidate with
  | .ok url => .ok url
  | .error cause => .error (.invalidUrl candidate cause)

/-- Reads a line. Only the first comma separates; the target loses the white space around it. -/
def Seed.parse (line : String) : Except SeedError Seed :=
  match line.toList.dropWhile (· ≠ ',') with
  | [] => .error (.missingComma line)
  | _ :: target =>
    match trim target with
    | [] => .error (.emptyUrl line)
    | trimmed => do
      let url ← seedUrl (String.ofList trimmed)
      return { rank := String.ofList (line.toList.takeWhile (· ≠ ',')), url }

end PageLoad.Crawl
