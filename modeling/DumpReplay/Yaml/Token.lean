import DumpReplay.Yaml.Character
import DumpReplay.Yaml.Fault

/-!
# Tokens of YAML

A document is cut into tokens from the left.  Indentation gives tokens of its own, which open and
close block collections; a key is only known as one when its colon is found, so its token is put in
afterwards, before the token that the key starts with.
-/

namespace DumpReplay.Yaml

/-! ## Tokens -/

/-- A token of a document. -/
inductive Token where
  | streamEnd
  | versionDirective (major minor : Nat)
  | tagDirective (handle start : String)
  | documentStart
  | documentEnd
  | blockSequenceStart
  | blockMappingStart
  | blockEnd
  | flowSequenceStart
  | flowSequenceEnd
  | flowMappingStart
  | flowMappingEnd
  | blockEntry
  | flowEntry
  | key
  | value
  | alias (name : String)
  | anchor (name : String)
  | tag (handle suffix : String)
  /-- A scalar with its text, and whether it is written without quotes. -/
  | scalar (text : String) (plain : Bool)
deriving DecidableEq, Repr, Inhabited

/-! ## Places in a text -/

/-- A place in a text: what follows it, and where it is. -/
structure Cursor where
  /-- The characters that follow. -/
  rest : List Char
  /-- The number of characters before. -/
  index : Nat
  /-- The number of lines before. -/
  line : Nat
  /-- The number of characters before in the same line. -/
  column : Nat

namespace Cursor

/-- Pass over one character. -/
def next (cursor : Cursor) : Cursor :=
  match cursor.rest with
  | [] => cursor
  | c :: rest =>
    if isBreak c then ⟨rest, cursor.index + 1, cursor.line + 1, 0⟩
    else ⟨rest, cursor.index + 1, cursor.line, cursor.column + 1⟩

/-- Pass over characters of the same line, up to a given rest. -/
def moveTo (cursor : Cursor) (rest : List Char) : Cursor :=
  let count := cursor.rest.length - rest.length
  ⟨rest, cursor.index + count, cursor.line, cursor.column + count⟩

/-- Pass over characters of the same line. -/
def skip (cursor : Cursor) (count : Nat) : Cursor :=
  cursor.moveTo (cursor.rest.drop count)

/-- The characters of the same line that have a property, and the place behind them. -/
def span (cursor : Cursor) (p : Char → Bool) : List Char × Cursor :=
  let rest := cursor.rest.dropWhile p
  (cursor.rest.takeWhile p, cursor.moveTo rest)

/-- Whether a break or the end follows. -/
def atLineEnd (cursor : Cursor) : Bool :=
  match cursor.rest with
  | [] => true
  | c :: _ => isBreak c

/-- Whether a marker between documents, three dashes or three points alone, follows at the start of
a line. -/
def atMarker (cursor : Cursor) : Bool :=
  cursor.column == 0 &&
    match cursor.rest with
    | a :: b :: c :: rest => a == b && b == c && (c == '-' || c == '.') && startsWithGap rest
    | _ => false

/-- Pass over blanks. -/
def skipSpaces (cursor : Cursor) : Cursor :=
  (cursor.span isSpace).2

/-- Pass over a comment, if one follows. -/
def skipComment (cursor : Cursor) : Cursor :=
  if cursor.rest.head? = some '#' then (cursor.span fun c => !isBreak c).2 else cursor

end Cursor

/-! ## Gaps inside scalars -/

/-- What stands between two words of a scalar. -/
structure Gap where
  /-- The blanks before the first line break. -/
  spaces : List Char
  /-- The line breaks, each as it was written. -/
  breaks : List Char

/-- What a gap means: without line breaks its blanks; a single line feed is a blank, and of several
breaks the first line feed is dropped. -/
def Gap.fold (gap : Gap) : List Char :=
  match gap.breaks with
  | [] => gap.spaces
  | first :: others =>
    if first = '\n' then if others.isEmpty then [' '] else others else first :: others

/-- Read the blanks and line breaks between two words.  A tab may not stand in the indentation of a
continued line. -/
def readGap : Nat → Int → Gap → Cursor → Except Fault (Gap × Cursor)
  | 0, _, gap, cursor => .ok (gap, cursor)
  | fuel + 1, indent, gap, cursor =>
    match cursor.rest with
    | [] => .ok (gap, cursor)
    | c :: _ =>
      if isSpace c then
        if gap.breaks.isEmpty then
          readGap fuel indent { gap with spaces := gap.spaces ++ [c] } cursor.next
        else if c = '\t' && cursor.column < indent then .error .tabInIndentation
        else readGap fuel indent gap cursor.next
      else if isBreak c then
        readGap fuel indent { gap with breaks := gap.breaks ++ [c] } cursor.next
      else .ok (gap, cursor)

/-! ## Plain scalars -/

/-- The characters of a plain scalar up to a blank, a line break, or what ends the scalar. -/
def plainWord (inFlow : Bool) : List Char → Except Fault (List Char)
  | [] => .ok []
  | c :: rest =>
    if isSpace c || isBreak c then .ok []
    else if inFlow && c = ':' && (rest.head?.any fun d => d == '?' || isFlowDelimiter d) then
      .error .unexpectedColon
    else if c = ':' && startsWithGap rest || inFlow && isFlowDelimiter c then .ok []
    else (plainWord inFlow rest).map (c :: ·)

/-- Read a plain scalar from a word on, given the text before and the gap behind that.  The answer
says too whether the last gap that was passed holds a line break. -/
def readPlain : Nat → Bool → Int → List Char → Gap → Cursor →
    Except Fault (List Char × Bool × Cursor)
  | 0, _, _, text, gap, cursor => .ok (text, !gap.breaks.isEmpty, cursor)
  | fuel + 1, inFlow, indent, text, gap, cursor => do
    if cursor.atMarker || cursor.rest.head? = some '#' then
      .ok (text, !gap.breaks.isEmpty, cursor)
    else
      let word ← plainWord inFlow cursor.rest
      let behind := cursor.skip word.length
      let (text, gap) := if word.isEmpty then (text, gap) else (text ++ gap.fold ++ word, ⟨[], []⟩)
      if behind.rest.isEmpty || !startsWithGap behind.rest then
        .ok (text, !gap.breaks.isEmpty, behind)
      else
        let (gap, behind) ← readGap (behind.rest.length + 1) indent gap behind
        if !inFlow && behind.column < indent then .ok (text, !gap.breaks.isEmpty, behind)
        else readPlain fuel inFlow indent text gap behind

/-! ## Quoted scalars -/

/-- The number that hexadecimal digits give. -/
def hexValue? (digits : List Char) : Option Nat :=
  digits.foldlM (fun value c =>
    if c.isDigit then some (value * 16 + (c.toNat - 48))
    else if 'a' ≤ c && c ≤ 'f' then some (value * 16 + (c.toNat - 87))
    else if 'A' ≤ c && c ≤ 'F' then some (value * 16 + (c.toNat - 55))
    else none) 0

/-- The character that an escape by code point gives, and what follows the digits. -/
def codeEscape (digits : Nat) (rest : List Char) : Except Fault (Char × List Char) :=
  if rest.length < digits then .error .badEscape
  else
    match hexValue? (rest.take digits) with
    | none => .error .badEscape
    | some code =>
      if code.isValidChar then .ok (Char.ofNat code, rest.drop digits) else .error .badEscape

/-- The character that a letter behind a backslash stands for. -/
def letterEscape? : Char → Option Char
  | '0' => some '\x00'
  | 'a' => some '\x07'
  | 'b' => some '\x08'
  | 't' | '\t' => some '\t'
  | 'n' => some '\n'
  | 'v' => some '\x0B'
  | 'f' => some '\x0C'
  | 'r' => some '\r'
  | 'e' => some '\x1B'
  | ' ' => some ' '
  | '\x22' => some '\x22'
  | '/' => some '/'
  | '\\' => some '\\'
  | 'N' => some '\u0085'
  | '_' => some '\u00A0'
  | 'L' => some '\u2028'
  | 'P' => some '\u2029'
  | _ => none

/-- The character that an escape gives, from behind its backslash on. -/
def escape : List Char → Except Fault (Char × List Char)
  | [] => .error .badEscape
  | 'x' :: rest => codeEscape 2 rest
  | 'u' :: rest => codeEscape 4 rest
  | 'U' :: rest => codeEscape 8 rest
  | c :: rest =>
    match letterEscape? c with
    | some d => .ok (d, rest)
    | none => .error .badEscape

/-- The characters of a quoted scalar up to a blank, a line break, an escaped line break, or the
quote that ends it, and what follows them. -/
def quotedWord : Nat → Bool → List Char → Except Fault (List Char × List Char)
  | 0, _, rest => .ok ([], rest)
  | _, _, [] => .ok ([], [])
  | fuel + 1, single, c :: rest =>
    if isSpace c || isBreak c then .ok ([], c :: rest)
    else if single then
      if c = '\x27' then
        match rest with
        | '\x27' :: rest' =>
          (quotedWord fuel single rest').map fun (text, rest) => ('\x27' :: text, rest)
        | _ => .ok ([], c :: rest)
      else (quotedWord fuel single rest).map fun (text, rest) => (c :: text, rest)
    else if c = '\x22' then .ok ([], c :: rest)
    else if c = '\\' then
      if rest.head?.any isBreak then .ok ([], c :: rest)
      else
        (escape rest).bind fun (d, rest') =>
          (quotedWord fuel single rest').map fun (text, rest) => (d :: text, rest)
    else (quotedWord fuel single rest).map fun (text, rest) => (c :: text, rest)

/-- Read a quoted scalar from behind its opening quote on, given the text before. -/
def readQuoted : Nat → Bool → List Char → Cursor → Except Fault (List Char × Cursor)
  | 0, _, _, _ => .error .unclosedQuote
  | fuel + 1, single, text, cursor => do
    if cursor.atMarker then .error .markerInQuote
    else
      let (word, rest) ← quotedWord (cursor.rest.length + 1) single cursor.rest
      let behind := cursor.moveTo rest
      let text := text ++ word
      match behind.rest with
      | [] => .error .unclosedQuote
      | '\\' :: _ =>
        let afterBreak := behind.next.next
        if afterBreak.rest.head? = some '\x22' then .ok (text, afterBreak.next)
        else
          let (gap, behind) ← readGap (afterBreak.rest.length + 1) 0 ⟨[], ['\n']⟩ afterBreak
          readQuoted fuel single (text ++ gap.breaks.drop 1) behind
      | c :: _ =>
        if c = (if single then '\x27' else '\x22') then .ok (text, behind.next)
        else
          let (gap, behind) ← readGap (behind.rest.length + 1) 0 ⟨[], []⟩ behind
          readQuoted fuel single (text ++ gap.fold) behind

/-! ## Block scalars -/

/-- What becomes of the line breaks at the end of a block scalar. -/
inductive Chomping where
  | strip
  | clip
  | keep
deriving DecidableEq

/-- The signs behind the indicator of a block scalar: what becomes of the last line breaks, and how
far the text is indented. -/
def blockHeader (rest : List Char) : Except Fault (Chomping × Nat × List Char) :=
  let chomping? : Char → Option Chomping := fun c =>
    if c = '+' then some .keep else if c = '-' then some .strip else none
  match rest with
  | [] => .ok (.clip, 0, [])
  | c :: rest' =>
    match chomping? c with
    | some chomping =>
      match rest' with
      | d :: rest'' =>
        if d = '0' then .error .badBlockHeader
        else if d.isDigit then .ok (chomping, d.toNat - 48, rest'')
        else .ok (chomping, 0, rest')
      | [] => .ok (chomping, 0, [])
    | none =>
      if c = '0' then .error .badBlockHeader
      else if c.isDigit then
        match rest' with
        | d :: rest'' =>
          match chomping? d with
          | some chomping => .ok (chomping, c.toNat - 48, rest'')
          | none => .ok (.clip, c.toNat - 48, rest')
        | [] => .ok (.clip, c.toNat - 48, [])
      else .ok (.clip, 0, rest)

/-- Pass over the indentation of a block scalar's lines and over its empty lines: the line breaks
passed, the deepest indentation seen, and the place of the first text.  While `indent` is zero it is
not known yet. -/
def blockBreaks : Nat → Nat → Nat → List Char → Cursor → Except Fault (List Char × Nat × Cursor)
  | 0, _, deepest, breaks, cursor => .ok (breaks, deepest, cursor)
  | fuel + 1, indent, deepest, breaks, cursor =>
    let open_ := indent = 0 || cursor.column < indent
    match cursor.rest with
    | ' ' :: _ =>
      if open_ then blockBreaks fuel indent deepest breaks cursor.next
      else .ok (breaks, max deepest cursor.column, cursor)
    | c :: _ =>
      let deepest := max deepest cursor.column
      if open_ && c = '\t' then .error .tabInIndentation
      else if isBreak c then blockBreaks fuel indent deepest (breaks ++ [c]) cursor.next
      else .ok (breaks, deepest, cursor)
    | [] => .ok (breaks, max deepest cursor.column, cursor)

/-- What stands between the lines of a block scalar read so far and the next one. -/
structure Joint where
  /-- The line break that ends the last line. -/
  leading : List Char
  /-- The line breaks of the empty lines behind it. -/
  trailing : List Char
  /-- Whether the last line starts with a blank. -/
  afterBlank : Bool

/-- The text between two lines of a block scalar: where lines are folded, a single line feed between
lines that start with no blank becomes a space. -/
def Joint.text (joint : Joint) (literal nextBlank : Bool) : List Char :=
  if !literal && joint.leading.head? == some '\n' && !joint.afterBlank && !nextBlank then
    (if joint.trailing.isEmpty then [' '] else []) ++ joint.trailing
  else joint.leading ++ joint.trailing

/-- Read the lines of a block scalar that are indented as deep as its first. -/
def blockLines : Nat → Bool → Nat → List Char → Joint → Cursor →
    Except Fault (List Char × Joint × Cursor)
  | 0, _, _, text, joint, cursor => .ok (text, joint, cursor)
  | fuel + 1, literal, indent, text, joint, cursor => do
    if cursor.column ≠ indent || cursor.rest.isEmpty then .ok (text, joint, cursor)
    else
      let blank := cursor.rest.head?.any isSpace
      let (line, behind) := cursor.span fun c => !isBreak c
      let text := text ++ joint.text literal blank ++ line
      let leading := behind.rest.take 1
      let (trailing, _, behind) ←
        blockBreaks (behind.rest.length + 1) indent 0 [] behind.next
      blockLines fuel literal indent text ⟨leading, trailing, blank⟩ behind

/-- Read a block scalar from behind its indicator on, inside a block of the given indentation. -/
def readBlockScalar (literal : Bool) (parent : Int) (cursor : Cursor) :
    Except Fault (List Char × Cursor) := do
  let (chomping, increment, rest) ← blockHeader cursor.rest
  let behind := (cursor.moveTo rest).skipSpaces.skipComment
  if !behind.atLineEnd then .error .badBlockHeader
  else
    let behind := behind.next
    let given := if increment = 0 then 0 else (max parent 0).toNat + increment
    let (breaks, deepest, behind) ← blockBreaks (behind.rest.length + 1) given 0 [] behind
    let indent := if given = 0 then max deepest (max (parent + 1) 1).toNat else given
    let (text, joint, behind) ←
      blockLines (behind.rest.length + 1) literal indent [] ⟨[], breaks, false⟩ behind
    let ending := match chomping with
      | .strip => []
      | .clip => joint.leading
      | .keep => joint.leading ++ joint.trailing
    .ok (text ++ ending, behind)

/-! ## Directives, anchors and tags -/

/-- A number of at most nine digits. -/
def versionNumber (cursor : Cursor) : Except Fault (Nat × Cursor) :=
  let (digits, behind) := cursor.span Char.isDigit
  if digits.isEmpty || digits.length > 9 then .error .badDirective
  else .ok (digits.foldl (fun value c => value * 10 + (c.toNat - 48)) 0, behind)

/-- The handle of a tag: an exclamation mark, and perhaps a word and a second mark. -/
def tagHandle (directive : Bool) (cursor : Cursor) : Except Fault (List Char × Cursor) :=
  match cursor.rest with
  | '!' :: rest =>
    let word := rest.takeWhile isWordCharacter
    let behind := cursor.skip (1 + word.length)
    if behind.rest.head? = some '!' then .ok ('!' :: word ++ ['!'], behind.next)
    else if directive && !word.isEmpty then .error .badTag
    else .ok ('!' :: word, behind)
  | _ => .error .badTag

/-- The characters of a tag, with escaped bytes read; `bracketed` allows more characters. -/
def tagText : Nat → Bool → List Char → Except Fault (List Char × List Char)
  | 0, _, rest => .ok ([], rest)
  | _, _, [] => .ok ([], [])
  | fuel + 1, bracketed, c :: rest =>
    if !isTagCharacter bracketed c then .ok ([], c :: rest)
    else if c = '%' then
      match rest with
      | a :: b :: rest' =>
        match hexValue? [a, b] with
        | some code =>
          if code < 128 then
            (tagText fuel bracketed rest').map fun (text, rest) => (Char.ofNat code :: text, rest)
          else (tagText fuel bracketed rest').map fun (text, rest) => ('\uFFFD' :: text, rest)
        | none => .error .badTag
      | _ => .error .badTag
    else (tagText fuel bracketed rest).map fun (text, rest) => (c :: text, rest)

/-- The text of a tag behind a beginning that belongs to it; there must be some text. -/
def readTagText (bracketed : Bool) (start : List Char) (cursor : Cursor) :
    Except Fault (List Char × Cursor) := do
  let (text, rest) ← tagText (cursor.rest.length + 1) bracketed cursor.rest
  if start.isEmpty && text.isEmpty then .error .badTag
  else .ok (start.drop 1 ++ text, cursor.moveTo rest)

/-- Read a tag. -/
def readTag (inFlow : Bool) (cursor : Cursor) : Except Fault (Token × Cursor) := do
  let finish := fun (handle suffix : List Char) (behind : Cursor) =>
    if startsWithGap behind.rest || inFlow && behind.rest.head? == some ',' then
      Except.ok (Token.tag (String.ofList handle) (String.ofList suffix), behind)
    else .error .badTag
  if cursor.rest.take 2 = ['!', '<'] then
    let (suffix, behind) ← readTagText true [] (cursor.skip 2)
    if behind.rest.head? = some '>' then finish [] suffix behind.next else .error .badTag
  else
    let (handle, behind) ← tagHandle false cursor
    if handle.length > 1 && handle.getLast? = some '!' then
      let (suffix, behind) ← readTagText false [] behind
      finish handle suffix behind
    else
      let (suffix, behind) ← readTagText false handle behind
      if suffix.isEmpty then finish [] ['!'] behind else finish ['!'] suffix behind

/-- Read an anchor or alias: the name behind its sign. -/
def readName (cursor : Cursor) : Except Fault (String × Cursor) :=
  let (name, behind) := cursor.next.span isWordCharacter
  let ended := startsWithGap behind.rest
    || behind.rest.head?.any fun c => "?:,]\x7d%@\x60".toList.contains c
  if name.isEmpty || !ended then .error .badAnchor else .ok (String.ofList name, behind)

/-- Read a directive, up to the end of its line. -/
def readDirective (cursor : Cursor) : Except Fault (Token × Cursor) := do
  let (name, behind) := cursor.next.span isWordCharacter
  let (token, behind) ←
    if !startsWithGap behind.rest then .error .badDirective
    else if name = "YAML".toList then
      let (major, behind) ← versionNumber behind.skipSpaces
      if behind.rest.head? ≠ some '.' then .error .badDirective
      else
        let (minor, behind) ← versionNumber behind.next
        .ok (Token.versionDirective major minor, behind)
    else if name = "TAG".toList then
      let (handle, behind) ← tagHandle true behind.skipSpaces
      if !(behind.rest.head?.any isSpace) then .error .badDirective
      else
        let (start, behind) ← readTagText true [] behind.skipSpaces
        if !startsWithGap behind.rest then .error .badDirective
        else .ok (Token.tagDirective (String.ofList handle) (String.ofList start), behind)
    else .error .badDirective
  let behind := behind.skipSpaces.skipComment
  if behind.atLineEnd then .ok (token, behind.next) else .error .badDirective

/-! ## The scanner -/

/-- A token that may turn out to start a key. -/
structure KeyCandidate where
  /-- Whether a colon has to follow. -/
  required : Bool
  /-- The number of tokens before. -/
  position : Nat
  /-- The number of characters before. -/
  index : Nat
  /-- The line of the token. -/
  line : Nat
  /-- The column of the token. -/
  column : Nat

/-- How far a document has been cut into tokens. -/
structure Scanner where
  /-- What is still to be read. -/
  cursor : Cursor
  /-- The tokens so far. -/
  tokens : Array Token
  /-- The indentation of the innermost block collection, -1 outside of all. -/
  indent : Int
  /-- The indentations of the collections around it. -/
  indents : List Int
  /-- Whether a key may start here. -/
  keyAllowed : Bool
  /-- The tokens that may start a key, one for each flow collection around and one for the block,
  the innermost first. -/
  candidates : List (Option KeyCandidate)

namespace Scanner

/-- Whether the place is inside a flow collection. -/
def inFlow (s : Scanner) : Bool :=
  s.candidates.length > 1

/-- Go on at a place. -/
def moveTo (s : Scanner) (cursor : Cursor) : Scanner :=
  { s with cursor := cursor }

/-- Add a token. -/
def push (s : Scanner) (token : Token) : Scanner :=
  { s with tokens := s.tokens.push token }

/-- Say whether a key may start. -/
def allowKey (s : Scanner) (allowed : Bool) : Scanner :=
  { s with keyAllowed := allowed }

/-- Put a token in before others. -/
def insertAt (s : Scanner) (position : Nat) (token : Token) : Scanner :=
  { s with tokens := (s.tokens.toList.insertIdx position token).toArray }

/-- Give up candidates that are more than a line or 1024 characters away. -/
def dropStale (s : Scanner) : Except Fault Scanner := do
  let candidates ← s.candidates.mapM fun candidate =>
    match candidate with
    | none => Except.ok none
    | some k =>
      if k.line < s.cursor.line || k.index + 1024 < s.cursor.index then
        if k.required then .error .missingColon else .ok none
      else .ok (some k)
  .ok { s with candidates := candidates }

/-- Give up the innermost candidate. -/
def dropCandidate (s : Scanner) : Except Fault Scanner :=
  match s.candidates with
  | some k :: outer =>
    if k.required then .error .missingColon else .ok { s with candidates := none :: outer }
  | _ => .ok s

/-- Take the next token as a candidate, where a key may start. -/
def saveCandidate (s : Scanner) : Except Fault Scanner := do
  if s.keyAllowed then
    let s ← s.dropCandidate
    let candidate : KeyCandidate := {
      required := !s.inFlow && s.indent == s.cursor.column
      position := s.tokens.size
      index := s.cursor.index
      line := s.cursor.line
      column := s.cursor.column }
    .ok { s with candidates := some candidate :: s.candidates.drop 1 }
  else .ok s

/-- Open a block collection if the column is deeper than the one around it. -/
def rollIndent (s : Scanner) (column : Nat) (position : Option Nat) (token : Token) : Scanner :=
  if s.inFlow || column ≤ s.indent then s
  else
    let s := { s with indent := column, indents := s.indent :: s.indents }
    match position with
    | some position => s.insertAt position token
    | none => s.push token

/-- Close block collections that are deeper than a column. -/
def closeBlocks (column : Int) (tokens : Array Token) (indent : Int) :
    List Int → Array Token × Int × List Int
  | [] => (tokens, indent, [])
  | outer :: rest =>
    if indent > column then closeBlocks column (tokens.push .blockEnd) outer rest
    else (tokens, indent, outer :: rest)

/-- Close the block collections that the place is no longer part of. -/
def unrollIndent (s : Scanner) (column : Int) : Scanner :=
  if s.inFlow then s
  else
    let (tokens, indent, indents) := closeBlocks column s.tokens s.indent s.indents
    { s with tokens := tokens, indent := indent, indents := indents }

/-- Pass over blanks, comments and line breaks. -/
def toNextToken : Nat → Scanner → Scanner
  | 0, s => s
  | fuel + 1, s =>
    let cursor :=
      if s.cursor.column = 0 && s.cursor.rest.head? = some '\uFEFF' then s.cursor.next
      else s.cursor
    let blank := fun c => c == ' ' || ((s.inFlow || !s.keyAllowed) && c == '\t')
    let cursor := (cursor.span blank).2.skipComment
    if cursor.rest.isEmpty || !cursor.atLineEnd then s.moveTo cursor
    else toNextToken fuel ((s.moveTo cursor.next).allowKey (s.keyAllowed || !s.inFlow))

/-- Read a scalar, and add its token. -/
def addScalar (s : Scanner) (plain : Bool) (text : List Char) (behind : Cursor) : Scanner :=
  (s.moveTo behind).push (.scalar (String.ofList text) plain)

/-- The end of the text. -/
def fetchEnd (s : Scanner) : Except Fault Scanner := do
  let s := s.unrollIndent (-1)
  let s ← s.dropCandidate
  .ok ((s.allowKey false).push .streamEnd)

/-- A directive. -/
def fetchDirective (s : Scanner) : Except Fault Scanner := do
  let s ← (s.unrollIndent (-1)).dropCandidate
  let (token, behind) ← readDirective s.cursor
  .ok (((s.allowKey false).moveTo behind).push token)

/-- A marker between documents. -/
def fetchMarker (s : Scanner) : Except Fault Scanner := do
  let s ← (s.unrollIndent (-1)).dropCandidate
  let token := if s.cursor.rest.head? = some '-' then Token.documentStart else .documentEnd
  .ok (((s.allowKey false).moveTo (s.cursor.skip 3)).push token)

/-- The start of a flow collection. -/
def fetchFlowStart (s : Scanner) (token : Token) : Except Fault Scanner := do
  let s ← s.saveCandidate
  let s := { s with candidates := none :: s.candidates }
  .ok (((s.allowKey true).moveTo s.cursor.next).push token)

/-- The end of a flow collection. -/
def fetchFlowEnd (s : Scanner) (token : Token) : Except Fault Scanner := do
  let s ← s.dropCandidate
  let s := if s.inFlow then { s with candidates := s.candidates.drop 1 } else s
  .ok (((s.allowKey false).moveTo s.cursor.next).push token)

/-- A comma in a flow collection. -/
def fetchFlowEntry (s : Scanner) : Except Fault Scanner := do
  let s ← s.dropCandidate
  .ok (((s.allowKey true).moveTo s.cursor.next).push .flowEntry)

/-- The dash of a block sequence. -/
def fetchBlockEntry (s : Scanner) : Except Fault Scanner := do
  if !s.inFlow && !s.keyAllowed then .error .entryNotAllowed
  else
    let s ← (s.rollIndent s.cursor.column none .blockSequenceStart).dropCandidate
    .ok (((s.allowKey true).moveTo s.cursor.next).push .blockEntry)

/-- The question mark before a key. -/
def fetchKey (s : Scanner) : Except Fault Scanner := do
  if !s.inFlow && !s.keyAllowed then .error .keyNotAllowed
  else
    let s ← (s.rollIndent s.cursor.column none .blockMappingStart).dropCandidate
    .ok (((s.allowKey (!s.inFlow)).moveTo s.cursor.next).push .key)

/-- The colon before a value.  If a token before it can start a key, that token gets its mark as a
key now. -/
def fetchValue (s : Scanner) : Except Fault Scanner := do
  match s.candidates with
  | some k :: outer =>
    let s := (s.insertAt k.position .key).rollIndent k.column (some k.position) .blockMappingStart
    let s := { s with candidates := none :: outer }
    .ok (((s.allowKey false).moveTo s.cursor.next).push .value)
  | _ =>
    if !s.inFlow && !s.keyAllowed then .error .valueNotAllowed
    else
      let s := s.rollIndent s.cursor.column none .blockMappingStart
      .ok (((s.allowKey (!s.inFlow)).moveTo s.cursor.next).push .value)

/-- An anchor or alias. -/
def fetchName (s : Scanner) (token : String → Token) : Except Fault Scanner := do
  let s ← s.saveCandidate
  let (name, behind) ← readName s.cursor
  .ok (((s.allowKey false).moveTo behind).push (token name))

/-- A tag. -/
def fetchTag (s : Scanner) : Except Fault Scanner := do
  let s ← s.saveCandidate
  let (token, behind) ← readTag s.inFlow s.cursor
  .ok (((s.allowKey false).moveTo behind).push token)

/-- A block scalar. -/
def fetchBlockScalar (s : Scanner) (literal : Bool) : Except Fault Scanner := do
  let s ← s.dropCandidate
  let (text, behind) ← readBlockScalar literal s.indent s.cursor.next
  .ok ((s.allowKey true).addScalar false text behind)

/-- A quoted scalar. -/
def fetchQuoted (s : Scanner) (single : Bool) : Except Fault Scanner := do
  let s ← s.saveCandidate
  let start := s.cursor.next
  let (text, behind) ← readQuoted (start.rest.length + 1) single [] start
  .ok ((s.allowKey false).addScalar false text behind)

/-- A plain scalar.  Where it ends behind a line break, a key may start. -/
def fetchPlain (s : Scanner) : Except Fault Scanner := do
  let s ← s.saveCandidate
  let (text, newLine, behind) ←
    readPlain (s.cursor.rest.length + 1) s.inFlow (s.indent + 1) [] ⟨[], []⟩ s.cursor
  .ok ((s.allowKey newLine).addScalar true text behind)

/-- Read the next token, from the place where it starts. -/
def fetch (s : Scanner) : Except Fault Scanner :=
  match s.cursor.rest with
  | [] => s.fetchEnd
  | c :: rest =>
    let gap := startsWithGap rest
    if s.cursor.column = 0 && c = '%' then s.fetchDirective
    else if s.cursor.atMarker then s.fetchMarker
    else if c = '[' then s.fetchFlowStart .flowSequenceStart
    else if c = '\x7b' then s.fetchFlowStart .flowMappingStart
    else if c = ']' then s.fetchFlowEnd .flowSequenceEnd
    else if c = '\x7d' then s.fetchFlowEnd .flowMappingEnd
    else if c = ',' then s.fetchFlowEntry
    else if c = '-' && gap then s.fetchBlockEntry
    else if c = '?' && (s.inFlow || gap) then s.fetchKey
    else if c = ':' && (s.inFlow || gap) then s.fetchValue
    else if c = '*' then s.fetchName .alias
    else if c = '&' then s.fetchName .anchor
    else if c = '!' then s.fetchTag
    else if c = '|' && !s.inFlow then s.fetchBlockScalar true
    else if c = '>' && !s.inFlow then s.fetchBlockScalar false
    else if c = '\x27' then s.fetchQuoted true
    else if c = '\x22' then s.fetchQuoted false
    else if !(isSpace c || isIndicator c) || c = '-' && !(rest.head?.any isSpace)
        || !s.inFlow && (c = '?' || c = ':') && !gap then s.fetchPlain
    else .error .badStart

/-- Read tokens up to the end of the text. -/
def run : Nat → Scanner → Except Fault Scanner
  | 0, s => .ok s
  | fuel + 1, s => do
    let s ← (s.toNextToken (s.cursor.rest.length + 1)).dropStale
    let s := s.unrollIndent s.cursor.column
    let ended := s.cursor.rest.isEmpty
    let s ← s.fetch
    if ended then .ok s else run fuel s

end Scanner

/-- The tokens of a text.  Every token but the last takes at least one character. -/
def tokens (text : List Char) : Except Fault (List Token) := do
  if text.all isPrintable then
    let cursor : Cursor := ⟨joinBreaks text, 0, 0, 0⟩
    let s ← Scanner.run (cursor.rest.length + 2) ⟨cursor, #[], -1, [], true, [none]⟩
    .ok s.tokens.toList
  else .error .controlCharacter

end DumpReplay.Yaml
