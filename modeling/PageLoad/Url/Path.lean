import PageLoad.Url.Percent
import PageLoad.Url.Basic

/-!
Paths as lists of segments. A segment of one dot adds nothing and one of two dots takes the
last segment away, where a dot may be written `%2e`.

A segment that looks like a drive letter stays: two dots do not take it away.
-/

namespace PageLoad.Url

def splitPath (special : Bool) (text : List Char) : List (List Char) :=
  text.splitOnP fun c => c = '/' || (special && c = '\\')

def plainDots : List Char → List Char
  | '%' :: '2' :: 'e' :: rest | '%' :: '2' :: 'E' :: rest => '.' :: plainDots rest
  | c :: rest => c :: plainDots rest
  | [] => []

def isSingleDot (segment : List Char) : Bool := plainDots segment = ['.']

def isDoubleDot (segment : List Char) : Bool := plainDots segment = ['.', '.']

def isDriveLetter : List Char → Bool
  | [letter, mark] => letter.isAlpha && (mark = ':' || mark = '|')
  | _ => false

def isPlainDriveLetter : List Char → Bool
  | [letter, ':'] => letter.isAlpha
  | _ => false

def looksLikeDrive : List Char → Bool
  | letter :: mark :: '\\' :: _ => isDriveLetter [letter, mark]
  | segment => isDriveLetter segment

/-- Takes the last segment of a path away unless it looks like a drive letter. The segments come
last first. -/
def popSegment : List String → List String
  | last :: path => if looksLikeDrive last.toList then last :: path else path
  | [] => []

def isGap (c : Char) : Bool := c = '\t' || c = '\n' || c = '\r'

def visible (text : List Char) : List Char := text.filter (!isGap ·)

def encodeSegment (segment : List Char) : String :=
  String.ofList (percentEncode pathEncodes (visible segment))

def splitAtGap? (segment : List Char) : Option (List Char × List Char) :=
  match segment.dropWhile isGap with
  | [] => none
  | letter :: rest =>
    match rest.dropWhile isGap with
    | ':' :: gap :: rest =>
      if letter.isAlpha && isGap gap && visible rest ≠ [] then some ([letter, ':'], rest) else none
    | _ => none

/-- What a segment that is no dots adds to a path, which it opens if `first`. A drive letter that
opens the path of a file is written with a colon, and a gap after it counts as a slash. -/
def plainSegments (isFile first : Bool) (segment : List Char) : List String :=
  if isFile && first then
    match splitAtGap? segment, visible segment with
    | some (drive, rest), _ => [String.ofList drive, encodeSegment rest]
    | none, [letter, mark] =>
      if isDriveLetter [letter, mark] then [String.ofList [letter, ':']]
      else [encodeSegment segment]
    | none, _ => [encodeSegment segment]
  else [encodeSegment segment]

def pushSegments (isFile : Bool) (path : List String) : List (List Char) → List String
  | [] => path
  | segment :: rest =>
    let ends := rest.isEmpty
    if isDoubleDot (visible segment) then
      pushSegments isFile (if ends then "" :: popSegment path else popSegment path) rest
    else if isSingleDot (visible segment) then
      pushSegments isFile (if ends then "" :: path else path) rest
    else pushSegments isFile ((plainSegments isFile path.isEmpty segment).reverse ++ path) rest

def addSegments (isFile : Bool) (path : List String) (segments : List (List Char)) :
    List String :=
  (pushSegments isFile path.reverse segments).reverse

/-- Whether a drive letter comes to stand first when segments are added to the path of a file,
perhaps after others that dots have taken away again. The path comes last segment first. -/
def putsDriveFirst (path : List String) : List (List Char) → Bool
  | [] => false
  | segment :: rest =>
    if isDoubleDot (visible segment) then putsDriveFirst (popSegment path) rest
    else if isSingleDot (visible segment) then putsDriveFirst path rest
    else
      (path.isEmpty && isDriveLetter (visible segment)) ||
        putsDriveFirst ((plainSegments true path.isEmpty segment).reverse ++ path) rest

def withoutLeadingSlashes (path : List String) : List String :=
  match path.dropWhile (· = "") with
  | [] => [""]
  | path => path

/-- Adds segments to the path of a file whose own last segment they replace. A drive letter is
not replaced: a first segment goes on where it ends, unless the letter is all of the path. -/
def replaceLast (path : List String) (segments : List (List Char)) : List String :=
  match path.getLast? with
  | none => addSegments true [] segments
  | some last =>
    if !isPlainDriveLetter last.toList then addSegments true path.dropLast segments
    else if path.length = 1 then addSegments true path segments
    else
      match segments with
      | [] => path
      | first :: rest =>
        if isDoubleDot (visible first) then addSegments true path rest
        else if isSingleDot (visible first) then
          if rest = [] then path ++ [""] else addSegments true path rest
        else addSegments true (path.dropLast ++ [last ++ encodeSegment first]) rest

end PageLoad.Url
