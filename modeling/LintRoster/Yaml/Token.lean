/-!
# YAML tokens

A token is the smallest unit of a YAML text that has a meaning of its own: an indicator, a scalar,
a tag, an anchor, a directive, or the begin or end of a block that indentation marks.
-/

namespace LintRoster.Yaml

/-- Why a text is not YAML, or not a workflow in YAML. -/
inductive Fault where
  | forbiddenCharacter
  | strayCharacter
  | malformedDirective
  | incompatibleVersion
  | malformedTag
  | undefinedTagHandle
  | malformedAnchor
  | unknownAnchor
  | malformedEscape
  | unfinishedQuote
  | malformedBlockHeader
  | tabInIndentation
  | strayColon
  | missingColon
  | misplacedIndicator
  | unexpectedToken
  | severalDocuments
  | tooDeep
  | tooManyAliases
  | duplicateKey
  | valueOutOfRange
  | unexpectedValue
deriving DecidableEq, Repr

namespace Fault

/-- The text of a fault. -/
def message : Fault → String
  | forbiddenCharacter => "the text holds a character that YAML does not allow"
  | strayCharacter => "a character cannot start a token"
  | malformedDirective => "a directive is malformed"
  | incompatibleVersion => "the version of YAML is not supported"
  | malformedTag => "a tag is malformed"
  | undefinedTagHandle => "a tag has an undefined handle"
  | malformedAnchor => "an anchor or alias has no proper name"
  | unknownAnchor => "an alias refers to no anchor"
  | malformedEscape => "an escape sequence is malformed"
  | unfinishedQuote => "a quoted scalar does not end"
  | malformedBlockHeader => "the header of a block scalar is malformed"
  | tabInIndentation => "a tab stands where indentation is expected"
  | strayColon => "a colon stands in a plain scalar"
  | missingColon => "a key is not followed by a colon"
  | misplacedIndicator => "an indicator is not allowed in this place"
  | unexpectedToken => "the structure of the document is broken"
  | severalDocuments => "there is more than one document"
  | tooDeep => "collections are nested too deeply"
  | tooManyAliases => "aliases expand to too many values"
  | duplicateKey => "a key occurs twice"
  | valueOutOfRange => "a scalar does not fit its type"
  | unexpectedValue => "a value has an unexpected shape"

end Fault

/-- A unit of a YAML text. A scalar is plain if it was written without quotes and not as a
block. -/
inductive Token where
  | versionDirective (major minor : Nat)
  | tagDirective (handle lead : String)
  | documentStart
  | documentEnd
  | blockSequenceStart
  | blockMappingStart
  | blockEnd
  | flowSequenceStart
  | flowSequenceEnd
  | flowMappingStart
  | flowMappingEnd
  | blockEntry
  | flowEntry
  | key
  | value
  | alias (name : String)
  | anchor (name : String)
  | tag (handle suffix : String)
  | scalar (text : String) (plain : Bool)
deriving DecidableEq, Repr, Inhabited

end LintRoster.Yaml
