/-!
# What can be wrong with markup

The ways in which a document of elements can be ill-formed, and their wording.
-/

namespace FighterCheck.Markup

/-- Why a document is ill-formed. -/
inductive Fault where
  /-- a tag that does not end -/
  | unclosedTag
  /-- a comment that does not end -/
  | unclosedComment
  /-- a section of character data that does not end -/
  | unclosedData
  /-- a processing instruction that does not end -/
  | unclosedInstruction
  /-- a declaration of the document type that does not end -/
  | unclosedDoctype
  /-- a declaration of the document type without a name -/
  | unnamedDoctype
  /-- an exclamation mark that begins nothing known -/
  | unknownMarkup
  /-- a reference in text that does not end -/
  | unclosedReference
  /-- an end tag where no element is open -/
  | unmatchedEnd (name : String)
  /-- an end tag of another element than the open one -/
  | mismatchedEnd (expected found : String)
  /-- an attribute without an equals sign -/
  | missingEquals
  /-- an attribute without a value -/
  | missingValue
  /-- an attribute value that is not in quotes -/
  | unquotedValue
  /-- an attribute value whose closing quote is missing -/
  | unclosedValue
  /-- an attribute that the element has twice -/
  | repeatedAttribute (name : String)
  /-- a reference in an attribute value to nothing known -/
  | unknownReference (name : String)
  deriving Repr, DecidableEq

/-- The wording of a fault. -/
def Fault.message : Fault → String
  | .unclosedTag => "syntax error: tag not closed"
  | .unclosedComment => "syntax error: comment not closed"
  | .unclosedData => "syntax error: character data not closed"
  | .unclosedInstruction => "syntax error: processing instruction not closed"
  | .unclosedDoctype => "syntax error: document type not closed"
  | .unnamedDoctype => "ill-formed document: document type without a name"
  | .unknownMarkup => "syntax error: unknown or missed symbol in markup"
  | .unclosedReference => "ill-formed document: reference not closed"
  | .unmatchedEnd name => "ill-formed document: no element is open for the end tag of " ++ name
  | .mismatchedEnd expected found =>
    "ill-formed document: expected the end tag of " ++ expected ++ ", found that of " ++ found
  | .missingEquals => "attribute without an equals sign"
  | .missingValue => "attribute without a value"
  | .unquotedValue => "attribute value not in quotes"
  | .unclosedValue => "attribute value without its closing quote"
  | .repeatedAttribute name => "attribute " ++ name ++ " given twice"
  | .unknownReference name => "unknown reference " ++ name

end FighterCheck.Markup
