import DumpReplay.Yaml.Token

/-!
# Documents of YAML

The tree that the tokens of a document describe: scalars, sequences and mappings, with aliases in
place of what their anchors mark.
-/

namespace DumpReplay.Yaml

/-! ## Trees -/

/-- A part of a document. -/
inductive Node where
  /-- A scalar with its tag, whether it is written without quotes, and its text. -/
  | scalar (tag : Option String) (plain : Bool) (text : String)
  /-- A sequence. -/
  | sequence (items : List Node)
  /-- A mapping, with the entries in order. -/
  | mapping (entries : List (Node × Node))
  /-- The alias of a collection that it is itself part of. -/
  | enclosing

/-- A scalar that is not written at all. -/
def Node.absent : Node :=
  .scalar none true ""

/-- What is known while a document is read: the tag handles and the anchors. -/
structure Context where
  /-- The handles that directives define, with what they stand for. -/
  handles : List (String × String)
  /-- The anchors, the last one set first. -/
  anchors : List (String × Node)

/-- The handles that need no directive. -/
def defaultHandles : List (String × String) :=
  [("!", "!"), ("!!", "tag:yaml.org,2002:")]

/-- A part of a document that was read, with the context behind it and the tokens that follow. -/
abbrev Parsed (α : Type) := α × Context × List Token

/-! ## Tags and anchors -/

/-- The marks before a node. -/
structure Marks where
  /-- The anchor. -/
  anchor : Option String
  /-- The tag, with its handle resolved. -/
  tag : Option String

/-- Set the anchor of a node, if there is one. -/
def Context.mark (context : Context) (marks : Marks) (node : Node) : Context :=
  match marks.anchor with
  | some name => { context with anchors := (name, node) :: context.anchors }
  | none => context

/-- The tag that a handle and a suffix give. -/
def Context.tag (context : Context) (handle suffix : String) : Except Fault String :=
  if handle = "" then .ok suffix
  else
    match context.handles.lookup handle with
    | some start => .ok (start ++ suffix)
    | none => .error .undefinedTag

/-- Read the anchor and the tag before a node, in either order. -/
def readMarks (context : Context) : List Token → Except Fault (Marks × List Token)
  | .anchor name :: .tag handle suffix :: rest => do
    .ok (⟨some name, some (← context.tag handle suffix)⟩, rest)
  | .tag handle suffix :: .anchor name :: rest => do
    .ok (⟨some name, some (← context.tag handle suffix)⟩, rest)
  | .anchor name :: rest => .ok (⟨some name, none⟩, rest)
  | .tag handle suffix :: rest => do
    .ok (⟨none, some (← context.tag handle suffix)⟩, rest)
  | rest => .ok (⟨none, none⟩, rest)

/-- The scalar of a token.  The tag that is a single exclamation mark says nothing about it. -/
def scalarNode (tag : Option String) (plain : Bool) (text : String) : Node :=
  .scalar (tag.filter (· ≠ "!")) plain text

/-! ## Collections -/

/-- Whether the next token is one of some tokens; a missing one counts as none of them. -/
def nextIn (tokens rest : List Token) : Bool :=
  match rest with
  | token :: _ => tokens.contains token
  | [] => false

/-- Where a node stands. -/
inductive Place where
  /-- In a flow collection. -/
  | flow
  /-- In a block collection. -/
  | block
  /-- In a block mapping, where a sequence needs no deeper indentation. -/
  | mapping
deriving DecidableEq

mutual

/-- Read a node. -/
def readNode : Nat → Place → Context → List Token → Except Fault (Parsed Node)
  | 0, _, _, _ => .error .unexpectedToken
  | fuel + 1, place, context, tokens =>
    match tokens with
    | .alias name :: rest =>
      match context.anchors.lookup name with
      | some node => .ok (node, context, rest)
      | none => .error .undefinedAnchor
    | tokens => do
      let (marks, rest) ← readMarks context tokens
      let opened := context.mark marks .enclosing
      let close := fun (node : Node) (context : Context) (rest : List Token) =>
        (Except.ok (node, context.mark marks node, rest) : Except Fault (Parsed Node))
      match rest with
      | .scalar text plain :: rest => close (scalarNode marks.tag plain text) context rest
      | .flowSequenceStart :: rest => do
        let (items, context, rest) ← readFlowSequence fuel true opened rest
        close (.sequence items) context rest
      | .flowMappingStart :: rest => do
        let (entries, context, rest) ← readFlowMapping fuel true opened rest
        close (.mapping entries) context rest
      | token :: rest' =>
        if place = .mapping && token = .blockEntry then do
          let (items, context, rest) ← readIndentless fuel opened rest
          close (.sequence items) context rest
        else if place ≠ .flow && token = .blockSequenceStart then do
          let (items, context, rest) ← readBlockSequence fuel opened rest'
          close (.sequence items) context rest
        else if place ≠ .flow && token = .blockMappingStart then do
          let (entries, context, rest) ← readBlockMapping fuel opened rest'
          close (.mapping entries) context rest
        else if marks.anchor.isSome || marks.tag.isSome then
          close (scalarNode marks.tag true "") context rest
        else .error .unexpectedToken
      | [] => .error .unexpectedToken

/-- Read a node, or find that there is none before one of some tokens. -/
def readNodeUnless : Nat → Place → List Token → Context → List Token → Except Fault (Parsed Node)
  | 0, _, _, _, _ => .error .unexpectedToken
  | fuel + 1, place, ends, context, rest =>
    if nextIn ends rest then .ok (.absent, context, rest) else readNode fuel place context rest

/-- Read the entries of a block sequence, up to its end. -/
def readBlockSequence : Nat → Context → List Token → Except Fault (Parsed (List Node))
  | 0, _, _ => .error .unexpectedToken
  | fuel + 1, context, tokens =>
    match tokens with
    | .blockEntry :: rest => do
      let (item, context, rest) ←
        readNodeUnless fuel .block [.blockEntry, .blockEnd] context rest
      let (items, context, rest) ← readBlockSequence fuel context rest
      .ok (item :: items, context, rest)
    | .blockEnd :: rest => .ok ([], context, rest)
    | _ => .error .unexpectedToken

/-- Read the entries of a sequence that is not indented deeper than the mapping around it. -/
def readIndentless : Nat → Context → List Token → Except Fault (Parsed (List Node))
  | 0, _, _ => .error .unexpectedToken
  | fuel + 1, context, tokens =>
    match tokens with
    | .blockEntry :: rest => do
      let (item, context, rest) ←
        readNodeUnless fuel .block [.blockEntry, .key, .value, .blockEnd] context rest
      let (items, context, rest) ← readIndentless fuel context rest
      .ok (item :: items, context, rest)
    | rest => .ok ([], context, rest)

/-- Read the value of a block mapping's key, if it has one. -/
def readBlockValue : Nat → Context → List Token → Except Fault (Parsed Node)
  | 0, _, _ => .error .unexpectedToken
  | fuel + 1, context, tokens =>
    match tokens with
    | .value :: rest => readNodeUnless fuel .mapping [.key, .value, .blockEnd] context rest
    | rest => .ok (.absent, context, rest)

/-- Read the entries of a block mapping, up to its end. -/
def readBlockMapping : Nat → Context → List Token → Except Fault (Parsed (List (Node × Node)))
  | 0, _, _ => .error .unexpectedToken
  | fuel + 1, context, tokens =>
    match tokens with
    | .key :: rest => do
      let (key, context, rest) ←
        readNodeUnless fuel .mapping [.key, .value, .blockEnd] context rest
      let (value, context, rest) ← readBlockValue fuel context rest
      let (entries, context, rest) ← readBlockMapping fuel context rest
      .ok ((key, value) :: entries, context, rest)
    | .blockEnd :: rest => .ok ([], context, rest)
    | _ => .error .unexpectedToken

/-- Read the value of a key in a flow collection that ends with a given token. -/
def readFlowValue : Nat → Token → Context → List Token → Except Fault (Parsed Node)
  | 0, _, _, _ => .error .unexpectedToken
  | fuel + 1, ending, context, tokens =>
    match tokens with
    | .value :: rest => readNodeUnless fuel .flow [.flowEntry, ending] context rest
    | rest => .ok (.absent, context, rest)

/-- Read the items of a flow sequence, up to its end.  An item that starts with a key is a mapping
with one entry; the token behind a key that is missing is lost. -/
def readFlowSequence : Nat → Bool → Context → List Token → Except Fault (Parsed (List Node))
  | 0, _, _, _ => .error .unexpectedToken
  | fuel + 1, first, context, tokens => do
    if nextIn [.flowSequenceEnd] tokens then .ok ([], context, tokens.drop 1)
    else if !first && !nextIn [.flowEntry] tokens then .error .unexpectedToken
    else
      let rest := if first then tokens else tokens.drop 1
      match rest with
      | .flowSequenceEnd :: rest => .ok ([], context, rest)
      | .key :: rest =>
        let (key, context, rest) ←
          if nextIn [.value, .flowEntry, .flowSequenceEnd] rest then
            .ok (.absent, context, rest.drop 1)
          else readNode fuel .flow context rest
        let (value, context, rest) ← readFlowValue fuel .flowSequenceEnd context rest
        let (items, context, rest) ← readFlowSequence fuel false context rest
        .ok (.mapping [(key, value)] :: items, context, rest)
      | rest =>
        let (item, context, rest) ← readNode fuel .flow context rest
        let (items, context, rest) ← readFlowSequence fuel false context rest
        .ok (item :: items, context, rest)

/-- Read the entries of a flow mapping, up to its end. -/
def readFlowMapping : Nat → Bool → Context → List Token → Except Fault (Parsed (List (Node × Node)))
  | 0, _, _, _ => .error .unexpectedToken
  | fuel + 1, first, context, tokens => do
    if nextIn [.flowMappingEnd] tokens then .ok ([], context, tokens.drop 1)
    else if !first && !nextIn [.flowEntry] tokens then .error .unexpectedToken
    else
      let rest := if first then tokens else tokens.drop 1
      match rest with
      | .flowMappingEnd :: rest => .ok ([], context, rest)
      | .key :: rest =>
        let ends := [Token.value, .flowEntry, .flowMappingEnd]
        let (key, context, rest) ← readNodeUnless fuel .flow ends context rest
        let (value, context, rest) ← readFlowValue fuel .flowMappingEnd context rest
        let (entries, context, rest) ← readFlowMapping fuel false context rest
        .ok ((key, value) :: entries, context, rest)
      | rest =>
        let (key, context, rest) ← readNode fuel .flow context rest
        let (entries, context, rest) ← readFlowMapping fuel false context rest
        .ok ((key, .absent) :: entries, context, rest)

end

/-! ## Documents -/

/-- What directives before a document say. -/
structure Directives where
  /-- Whether the version was given. -/
  versioned : Bool
  /-- The tag handles that were defined. -/
  handles : List (String × String)

/-- Read directives.  A version or a handle may be given only once, and the version must be 1.1 or
1.2. -/
def readDirectives (directives : Directives) :
    List Token → Except Fault (Directives × List Token)
  | .versionDirective major minor :: rest =>
    if directives.versioned || major ≠ 1 || (minor ≠ 1 && minor ≠ 2) then .error .badDirective
    else readDirectives { directives with versioned := true } rest
  | .tagDirective handle start :: rest =>
    if (directives.handles.lookup handle).isSome then .error .badDirective
    else
      readDirectives { directives with handles := (handle, start) :: directives.handles } rest
  | rest => .ok (directives, rest)

/-- Whether a document without a marker cannot start with a token. -/
def endsContent : Token → Bool
  | .versionDirective _ _ | .tagDirective _ _ | .documentStart | .documentEnd | .streamEnd => true
  | _ => false

/-- Read the only document of some tokens: none if there are no tokens at all. -/
def readDocument (tokens : List Token) : Except Fault (Option Node) := do
  match tokens with
  | [] | [.streamEnd] => .ok none
  | tokens =>
    let (directives, rest) ← readDirectives ⟨false, []⟩ tokens
    let context : Context := ⟨directives.handles ++ defaultHandles, []⟩
    let explicit := directives.versioned || !directives.handles.isEmpty
    let fuel := 4 * tokens.length + 8
    let (node, _, rest) ←
      match rest with
      | .documentStart :: rest =>
        if rest.head?.any endsContent then Except.ok (Node.absent, context, rest)
        else readNode fuel .block context rest
      | rest =>
        if explicit then .error .unexpectedToken else readNode fuel .block context rest
    match rest.dropWhile (· = .documentEnd) with
    | [.streamEnd] => .ok (some node)
    | _ => .error .secondDocument

/-- Read a text that holds at most one document. -/
def read (text : List Char) : Except Fault (Option Node) := do
  readDocument (← tokens text)

end DumpReplay.Yaml
