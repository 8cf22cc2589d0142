/-!
# Faults of YAML documents

Why a text is no YAML document, or no document of the expected shape.
-/

namespace DumpReplay.Yaml

/-- What is wrong with a document. -/
inductive Fault where
  /-- A control character. -/
  | controlCharacter
  /-- A character that starts no token. -/
  | badStart
  /-- A quoted scalar that does not end. -/
  | unclosedQuote
  /-- A marker between documents inside a quoted scalar. -/
  | markerInQuote
  /-- An escape that is not known, or that gives no character. -/
  | badEscape
  /-- A tab where only spaces indent. -/
  | tabInIndentation
  /-- A sequence entry where none may stand. -/
  | entryNotAllowed
  /-- A key where none may stand. -/
  | keyNotAllowed
  /-- A value where none may stand. -/
  | valueNotAllowed
  /-- A key without its colon. -/
  | missingColon
  /-- A colon inside a plain scalar of a flow collection. -/
  | unexpectedColon
  /-- The first line of a block scalar says something unknown. -/
  | badBlockHeader
  /-- A directive that is not known or not complete. -/
  | badDirective
  /-- An anchor or alias without a name. -/
  | badAnchor
  /-- A tag that is not complete. -/
  | badTag
  /-- A token that does not continue the document. -/
  | unexpectedToken
  /-- A tag with a handle that no directive defines. -/
  | undefinedTag
  /-- An alias of an anchor that was not set. -/
  | undefinedAnchor
  /-- More than one document. -/
  | secondDocument
  /-- The document is no mapping. -/
  | notAMapping
  /-- A key of the mapping is no scalar. -/
  | keyNotText
  /-- A value that should be text is none. -/
  | notText
  /-- A known key stands twice. -/
  | repeatedKey (key : String)
deriving DecidableEq, Repr

namespace Fault

/-- The text of a fault. -/
def message : Fault → String
  | controlCharacter => "control characters are not allowed"
  | badStart => "found character that cannot start any token"
  | unclosedQuote => "found unexpected end of stream"
  | markerInQuote => "found unexpected document indicator"
  | badEscape => "found unknown escape character"
  | tabInIndentation => "found a tab character where an indentation space is expected"
  | entryNotAllowed => "block sequence entries are not allowed in this context"
  | keyNotAllowed => "mapping keys are not allowed in this context"
  | valueNotAllowed => "mapping values are not allowed in this context"
  | missingColon => "could not find expected \x27:\x27"
  | unexpectedColon => "found unexpected \x27:\x27"
  | badBlockHeader => "did not find expected comment or line break"
  | badDirective => "found unknown directive name"
  | badAnchor => "did not find expected alphabetic or numeric character"
  | badTag => "did not find expected whitespace or line break"
  | unexpectedToken => "did not find expected node content"
  | undefinedTag => "found undefined tag handle"
  | undefinedAnchor => "unknown anchor"
  | secondDocument =>
    "deserializing from YAML containing more than one document is not supported"
  | notAMapping => "invalid type: expected struct ToolConfig"
  | keyNotText => "invalid type: expected field identifier"
  | notText => "invalid type: expected a string"
  | repeatedKey key => "duplicate field \x60" ++ key ++ "\x60"

end Fault

end DumpReplay.Yaml
