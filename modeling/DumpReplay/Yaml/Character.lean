/-!
# Characters of YAML

The classes of characters that tell the tokens of a document apart, and the one form that all kinds
of line breaks are brought into before a document is read.
-/

namespace DumpReplay.Yaml

/-- Whether a character may stand in a document. -/
def isPrintable (c : Char) : Bool :=
  let n := c.toNat
  n == 0x09 || n == 0x0A || n == 0x0D || (0x20 ≤ n && n ≤ 0x7E) || n == 0x85
    || (0xA0 ≤ n && n ≤ 0xFFFD) || 0x10000 ≤ n

/-- Whether a character is a blank inside a line. -/
def isSpace (c : Char) : Bool :=
  c == ' ' || c == '\t'

/-- Whether a character ends a line, after `joinBreaks`. -/
def isBreak (c : Char) : Bool :=
  c == '\n' || c == '\u2028' || c == '\u2029'

/-- Whether a character can be part of the name of an anchor, directive or tag handle. -/
def isWordCharacter (c : Char) : Bool :=
  c.isAlphanum || c == '_' || c == '-'

/-- Whether a character can be part of a tag; brackets and commas only inside angle brackets. -/
def isTagCharacter (bracketed : Bool) (c : Char) : Bool :=
  isWordCharacter c || ";/?:@&=+$.%!~*\x27()".toList.contains c
    || (bracketed && ",[]".toList.contains c)

/-- Whether a character is an indicator, which starts no plain scalar by itself. -/
def isIndicator (c : Char) : Bool :=
  "-?:,[]\x7b\x7d#&*!|>\x27\x22%@\x60".toList.contains c

/-- Whether a character delimits the parts of a flow collection. -/
def isFlowDelimiter (c : Char) : Bool :=
  ",[]\x7b\x7d".toList.contains c

/-- Bring carriage returns, alone or before a line feed, and next-line characters into the form of
line feeds. -/
def joinBreaks : List Char → List Char
  | [] => []
  | '\r' :: '\n' :: rest => '\n' :: joinBreaks rest
  | c :: rest => (if c = '\r' || c = '\u0085' then '\n' else c) :: joinBreaks rest

/-- What stands at the head of a text, or a break at its end. -/
def startsWithGap : List Char → Bool
  | [] => true
  | c :: _ => isSpace c || isBreak c

end DumpReplay.Yaml
