import DeviceAdmission.Yaml.Source

/-!
# Faults of a YAML text

A fault names the problem, its place, and what was being read when it arose. The place is named
unless it is the start of the text; the activity's place is named unless it is the same.
-/
namespace DeviceAdmission.Yaml

/-- What is wrong with a text. -/
inductive Problem where
  | controlCharacter
  | noToken
  | noColon
  | entryNotAllowed
  | keyNotAllowed
  | valueNotAllowed
  | unknownDirective
  | noLineEnd
  | noDirectiveName
  | badDirectiveName
  | noVersionDot
  | longVersion
  | noVersion
  | noBlank
  | noBlankOrBreak
  | badAnchor
  | noTagEnd
  | noTagMark
  | noUri
  | noOctet
  | badLeadingOctet
  | badTrailingOctet
  | zeroIndent
  | tabInIndent
  | documentIndicator
  | endOfText
  | unknownEscape
  | noHexDigit
  | badCodePoint
  | unexpectedColon
  | tabBeforeIndent
  | noDocumentStart
  | duplicateVersion
  | wrongVersion
  | duplicateHandle
  | undefinedHandle
  | noNode
  | noEntry
  | noKey
  | noListEnd
  | noMappingEnd
  | unknownAnchor
  deriving DecidableEq, Repr

def Problem.message : Problem → String
  | .controlCharacter => "control characters are not allowed"
  | .noToken => "found character that cannot start any token"
  | .noColon => "could not find expected ':'"
  | .entryNotAllowed => "block sequence entries are not allowed in this context"
  | .keyNotAllowed => "mapping keys are not allowed in this context"
  | .valueNotAllowed => "mapping values are not allowed in this context"
  | .unknownDirective => "found unknown directive name"
  | .noLineEnd => "did not find expected comment or line break"
  | .noDirectiveName => "could not find expected directive name"
  | .badDirectiveName => "found unexpected non-alphabetical character"
  | .noVersionDot => "did not find expected digit or '.' character"
  | .longVersion => "found extremely long version number"
  | .noVersion => "did not find expected version number"
  | .noBlank => "did not find expected whitespace"
  | .noBlankOrBreak => "did not find expected whitespace or line break"
  | .badAnchor => "did not find expected alphabetic or numeric character"
  | .noTagEnd => "did not find the expected '>'"
  | .noTagMark => "did not find expected '!'"
  | .noUri => "did not find expected tag URI"
  | .noOctet => "did not find URI escaped octet"
  | .badLeadingOctet => "found an incorrect leading UTF-8 octet"
  | .badTrailingOctet => "found an incorrect trailing UTF-8 octet"
  | .zeroIndent => "found an indentation indicator equal to 0"
  | .tabInIndent => "found a tab character where an indentation space is expected"
  | .documentIndicator => "found unexpected document indicator"
  | .endOfText => "found unexpected end of stream"
  | .unknownEscape => "found unknown escape character"
  | .noHexDigit => "did not find expected hexdecimal number"
  | .badCodePoint => "found invalid Unicode character escape code"
  | .unexpectedColon => "found unexpected ':'"
  | .tabBeforeIndent => "found a tab character that violates indentation"
  | .noDocumentStart => "did not find expected <document start>"
  | .duplicateVersion => "found duplicate %YAML directive"
  | .wrongVersion => "found incompatible YAML document"
  | .duplicateHandle => "found duplicate %TAG directive"
  | .undefinedHandle => "found undefined tag handle"
  | .noNode => "did not find expected node content"
  | .noEntry => "did not find expected '-' indicator"
  | .noKey => "did not find expected key"
  | .noListEnd => "did not find expected ',' or ']'"
  | .noMappingEnd => "did not find expected ',' or '\x7d'"
  | .unknownAnchor => "unknown anchor"

/-- What was being read. -/
inductive Activity where
  | scanningNextToken
  | scanningSimpleKey
  | scanningDirective
  | scanningVersionDirective
  | scanningHandleDirective
  | parsingHandleDirective
  | scanningTagDirective
  | parsingTagDirective
  | scanningAnchor
  | scanningAlias
  | scanningTag
  | parsingTag
  | scanningBlockScalar
  | scanningQuotedScalar
  | parsingQuotedScalar
  | scanningPlainScalar
  | parsingNode
  | parsingBlockNode
  | parsingFlowNode
  | parsingBlockCollection
  | parsingBlockMapping
  | parsingFlowSequence
  | parsingFlowMapping
  deriving DecidableEq, Repr

def Activity.text : Activity → String
  | .scanningNextToken => "while scanning for the next token"
  | .scanningSimpleKey => "while scanning a simple key"
  | .scanningDirective => "while scanning a directive"
  | .scanningVersionDirective => "while scanning a %YAML directive"
  | .scanningHandleDirective => "while scanning a %TAG directive"
  | .parsingHandleDirective => "while parsing a %TAG directive"
  | .scanningTagDirective => "while scanning a tag directive"
  | .parsingTagDirective => "while parsing a tag directive"
  | .scanningAnchor => "while scanning an anchor"
  | .scanningAlias => "while scanning an alias"
  | .scanningTag => "while scanning a tag"
  | .parsingTag => "while parsing a tag"
  | .scanningBlockScalar => "while scanning a block scalar"
  | .scanningQuotedScalar => "while scanning a quoted scalar"
  | .parsingQuotedScalar => "while parsing a quoted scalar"
  | .scanningPlainScalar => "while scanning a plain scalar"
  | .parsingNode => "while parsing a node"
  | .parsingBlockNode => "while parsing a block node"
  | .parsingFlowNode => "while parsing a flow node"
  | .parsingBlockCollection => "while parsing a block collection"
  | .parsingBlockMapping => "while parsing a block mapping"
  | .parsingFlowSequence => "while parsing a flow sequence"
  | .parsingFlowMapping => "while parsing a flow mapping"

/-- Where a problem lies: a character that may not be in any text is counted in octets. -/
inductive Place where
  | mark (m : Mark)
  | octet (n : Nat)
  deriving DecidableEq, Repr

structure Fault where
  problem : Problem
  place : Place
  activity : Option (Activity × Mark)
  deriving DecidableEq, Repr

namespace Fault

/-- A problem at a mark during an activity that began at another. -/
def during (activity : Activity) (began : Mark) (problem : Problem) (place : Mark) : Fault :=
  ⟨problem, .mark place, some (activity, began)⟩

/-- A problem that needs no activity to be understood. -/
def alone (problem : Problem) (place : Mark) : Fault := ⟨problem, .mark place, none⟩

def message (f : Fault) : String :=
  let place := match f.place with
    | .mark m => m.suffix
    | .octet n => if n == 0 then "" else " at position " ++ toString n
  let activity := match f.activity with
    | none => ""
    | some (activity, began) =>
      ", " ++ activity.text ++ (if f.place == .mark began then "" else began.suffix)
  f.problem.message ++ place ++ activity

end Fault

end DeviceAdmission.Yaml
