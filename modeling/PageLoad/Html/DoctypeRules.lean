import PageLoad.Html.Token

/-!
What a document type says about its document: whether it is one of those that the standard
allows, and whether the document is one with quirks.
-/

namespace PageLoad.Html

def quirkyPublicIds : List String :=
  ["-//w3o//dtd w3 html strict 3.0//en//", "-/w3c/dtd html 4.0 transitional/en", "html"]

def quirkySystemIds : List String :=
  ["http://www.ibm.com/data/dtd/v11/ibmxhtml1-transitional.dtd"]

def quirkyOpenings : List String :=
  ["-//advasoft ltd//dtd html 3.0 aswedit + extensions//",
   "-//as//dtd html 3.0 aswedit + extensions//",
   "-//ietf//dtd html 2.0 level 1//",
   "-//ietf//dtd html 2.0 level 2//",
   "-//ietf//dtd html 2.0 strict level 1//",
   "-//ietf//dtd html 2.0 strict level 2//",
   "-//ietf//dtd html 2.0 strict//",
   "-//ietf//dtd html 2.0//",
   "-//ietf//dtd html 2.1e//",
   "-//ietf//dtd html 3.0//",
   "-//ietf//dtd html 3.2 final//",
   "-//ietf//dtd html 3.2//",
   "-//ietf//dtd html 3//",
   "-//ietf//dtd html level 0//",
   "-//ietf//dtd html level 1//",
   "-//ietf//dtd html level 2//",
   "-//ietf//dtd html level 3//",
   "-//ietf//dtd html strict level 0//",
   "-//ietf//dtd html strict level 1//",
   "-//ietf//dtd html strict level 2//",
   "-//ietf//dtd html strict level 3//",
   "-//ietf//dtd html strict//",
   "-//ietf//dtd html//",
   "-//metrius//dtd metrius presentational//",
   "-//microsoft//dtd internet explorer 2.0 html strict//",
   "-//microsoft//dtd internet explorer 2.0 html//",
   "-//microsoft//dtd internet explorer 2.0 tables//",
   "-//microsoft//dtd internet explorer 3.0 html strict//",
   "-//microsoft//dtd internet explorer 3.0 html//",
   "-//microsoft//dtd internet explorer 3.0 tables//",
   "-//netscape comm. corp.//dtd html//",
   "-//netscape comm. corp.//dtd strict html//",
   "-//o'reilly and associates//dtd html 2.0//",
   "-//o'reilly and associates//dtd html extended 1.0//",
   "-//o'reilly and associates//dtd html extended relaxed 1.0//",
   "-//softquad software//dtd hotmetal pro 6.0::19990601::extensions to html 4.0//",
   "-//softquad//dtd hotmetal pro 4.0::19971010::extensions to html 4.0//",
   "-//spyglass//dtd html 2.0 extended//",
   "-//sq//dtd html 2.0 hotmetal + extensions//",
   "-//sun microsystems corp.//dtd hotjava html//",
   "-//sun microsystems corp.//dtd hotjava strict html//",
   "-//w3c//dtd html 3 1995-03-24//",
   "-//w3c//dtd html 3.2 draft//",
   "-//w3c//dtd html 3.2 final//",
   "-//w3c//dtd html 3.2//",
   "-//w3c//dtd html 3.2s draft//",
   "-//w3c//dtd html 4.0 frameset//",
   "-//w3c//dtd html 4.0 transitional//",
   "-//w3c//dtd html experimental 19960712//",
   "-//w3c//dtd html experimental 970421//",
   "-//w3c//dtd w3 html//",
   "-//w3o//dtd w3 html 3.0//",
   "-//webtechs//dtd mozilla html 2.0//",
   "-//webtechs//dtd mozilla html//"]

/-- Openings that make for quirks only in a type without a system identifier. -/
def quirkyOpeningsAlone : List String :=
  ["-//w3c//dtd html 4.01 frameset//", "-//w3c//dtd html 4.01 transitional//"]

/-- The document types that are no error, as public and system identifiers. -/
def allowedDoctypes : List (Option String × Option String) :=
  [(none, none),
   (none, some "about:legacy-compat"),
   (some "-//W3C//DTD HTML 4.0//EN", none),
   (some "-//W3C//DTD HTML 4.0//EN", some "http://www.w3.org/TR/REC-html40/strict.dtd"),
   (some "-//W3C//DTD HTML 4.01//EN", none),
   (some "-//W3C//DTD HTML 4.01//EN", some "http://www.w3.org/TR/html4/strict.dtd"),
   (some "-//W3C//DTD XHTML 1.0 Strict//EN",
    some "http://www.w3.org/TR/xhtml1/DTD/xhtml1-strict.dtd"),
   (some "-//W3C//DTD XHTML 1.1//EN", some "http://www.w3.org/TR/xhtml11/DTD/xhtml11.dtd")]

namespace Doctype

def isAllowed (doctype : Doctype) : Bool :=
  doctype.name = some "html" && allowedDoctypes.contains (doctype.publicId, doctype.systemId)

def hasQuirks (doctype : Doctype) : Bool :=
  let publicId := doctype.publicId.map String.toLower
  let systemId := doctype.systemId.map String.toLower
  let opensWith (openings : List String) : Bool :=
    publicId.any fun id => openings.any fun opening => opening.toList.isPrefixOf id.toList
  doctype.forceQuirks || doctype.name ≠ some "html" ||
    publicId.any quirkyPublicIds.contains || systemId.any quirkySystemIds.contains ||
    opensWith quirkyOpenings || (systemId.isNone && opensWith quirkyOpeningsAlone)

end Doctype

end PageLoad.Html
