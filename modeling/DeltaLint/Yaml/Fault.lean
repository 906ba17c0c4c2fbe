/-
  DeltaLint.Yaml.Fault — what can be wrong with the text of a document.

  Every fault but the last two belongs to a place in the text.
-/

namespace DeltaLint.Yaml

inductive Fault where
  | blockEntryNotAllowed
  | blockNotClosed
  | controlCharacter
  | directive
  | documentInString
  | documentStartExpected
  | duplicateDirective
  | duplicateKey
  | escape
  | flowNotClosed
  | indentation
  | indicator
  | invalidScalar
  | keyNotAllowed
  | missingColon
  | name
  | nodeExpected
  | notAMapping
  | numberTooLarge
  | stringNotClosed
  | tag
  | tooDeep
  | unexpectedColon
  | unknownAnchor
  | valueNotAllowed
  | version
  | manyDocuments
  | tooManyAliases
  deriving DecidableEq, Repr

namespace Fault

def message : Fault → String
  | blockEntryNotAllowed => "block sequence entries are not allowed in this context"
  | blockNotClosed => "did not find the end of a block collection"
  | controlCharacter => "control characters are not allowed"
  | directive => "found an invalid directive"
  | documentInString => "found unexpected document indicator"
  | documentStartExpected => "did not find expected <document start>"
  | duplicateDirective => "found duplicate directive"
  | duplicateKey => "duplicate entry in mapping"
  | escape => "found an invalid escape in a quoted scalar"
  | flowNotClosed => "did not find expected ',' or the end of a flow collection"
  | indentation => "found an indentation that does not fit"
  | indicator => "found character that cannot start any token"
  | invalidScalar => "scalar does not fit its tag"
  | keyNotAllowed => "mapping keys are not allowed in this context"
  | missingColon => "could not find expected ':'"
  | name => "did not find expected alphabetic or numeric character"
  | nodeExpected => "did not find expected node content"
  | notAMapping => "expected a YAML mapping"
  | numberTooLarge => "integer does not fit 64 bits"
  | stringNotClosed => "found unexpected end of stream"
  | tag => "found an invalid tag"
  | tooDeep => "recursion limit exceeded"
  | unexpectedColon => "found unexpected ':'"
  | unknownAnchor => "unknown anchor"
  | valueNotAllowed => "mapping values are not allowed in this context"
  | version => "found incompatible YAML document"
  | manyDocuments => "deserializing from YAML containing more than one document is not supported"
  | tooManyAliases => "repetition limit exceeded"

/-- The fault is of a place in the text, and so is what a reader would say about it. -/
def hasPlace : Fault → Bool
  | manyDocuments | tooManyAliases => false
  | _ => true

end Fault

end DeltaLint.Yaml
