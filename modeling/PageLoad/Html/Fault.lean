/-!
The markup problems that parsing recovers from and reports.
-/

namespace PageLoad.Html

inductive Fault where
  | badCharacter
  | unexpectedEnd
  | duplicateAttribute
  | endTagAttributes
  | selfClosingEndTag
  | unacknowledgedSelfClosing
  | numberWithoutSemicolon
  | numberWithoutDigits
  | invalidNumber
  | endInNumber
  | endAfterHash
  | invalidReference
  | referenceBeforeEquals
  | referenceWithoutSemicolon
  | badDoctype
  | lateDoctype
  | unexpectedToken
  | openAtBodyEnd
  | unexpectedOpenElement
  | bodyNotInScope
  | bodyNotInScopeForHtml
  | nestedHeading
  | nestedForm
  | nestedButton
  | nestedNobr
  | noForm
  | formNotInScope
  | formNotCurrent
  | noParagraph
  | noMatchingTag
  | wrongHeading
  | noHeading
  | formattingNotOpen
  | formattingNotInScope
  | formattingNotCurrent
  | specialWhileClosing
  | tableText
  | tableCharacters
  | cellNotCurrent
  deriving DecidableEq, Repr

def Fault.message : Fault → String
  | .badCharacter => "Bad character"
  | .unexpectedEnd => "Unexpected EOF"
  | .duplicateAttribute => "Duplicate attribute"
  | .endTagAttributes => "Attributes on an end tag"
  | .selfClosingEndTag => "Self-closing end tag"
  | .unacknowledgedSelfClosing => "Unacknowledged self-closing tag"
  | .numberWithoutSemicolon => "Semicolon missing after numeric character reference"
  | .numberWithoutDigits => "Numeric character reference without digits"
  | .invalidNumber => "Invalid numeric character reference"
  | .endInNumber => "EOF in numeric character reference"
  | .endAfterHash => "EOF after '#' in character reference"
  | .invalidReference => "Invalid character reference"
  | .referenceBeforeEquals => "Equals sign after character reference in attribute"
  | .referenceWithoutSemicolon => "Character reference does not end with semicolon"
  | .badDoctype => "Bad DOCTYPE"
  | .lateDoctype => "DOCTYPE in body"
  | .unexpectedToken => "Unexpected token"
  | .openAtBodyEnd => "Unexpected open tag at end of body"
  | .unexpectedOpenElement => "Unexpected open element"
  | .bodyNotInScope => "</body> with no <body> in scope"
  | .bodyNotInScopeForHtml => "</html> with no <body> in scope"
  | .nestedHeading => "nested heading tags"
  | .nestedForm => "nested forms"
  | .nestedButton => "nested buttons"
  | .nestedNobr => "Nested <nobr>"
  | .noForm => "Null form element pointer on </form>"
  | .formNotInScope => "Form element not in scope on </form>"
  | .formNotCurrent => "Bad open element on </form>"
  | .noParagraph => "No <p> tag to close"
  | .noMatchingTag => "No matching tag to close"
  | .wrongHeading => "Closing wrong heading tag"
  | .noHeading => "No heading tag to close"
  | .formattingNotOpen => "Formatting element not open"
  | .formattingNotInScope => "Formatting element not in scope"
  | .formattingNotCurrent => "Formatting element not current node"
  | .specialWhileClosing => "Found special tag while closing generic tag"
  | .tableText => "Non-space table text"
  | .tableCharacters => "Unexpected characters in table"
  | .cellNotCurrent => "expected to close <td> or <th> with cell"

end PageLoad.Html
