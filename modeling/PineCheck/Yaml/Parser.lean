import PineCheck.Yaml.Scanner
/-!
# The YAML parser

The parser reads tokens and gives events: stream and document boundaries, scalars, aliases,
and the starts and ends of sequences and mappings. It is a state machine: `phase` says what
comes next, and `states` is the stack of phases to return to when a node ends, so nesting
needs no recursion. Like the scanner it works on demand, one event at a time, so an error
is met only when the event before it has been taken.
-/

namespace PineCheck.Yaml

/-- The kinds of events. A scalar carries its anchor, its tag, whether its tag may be
resolved from the text (`plain`: it was written plain or tagged `!`; `quoted`: it has no
tag), its text and its style. Collections carry their anchor, tag, whether the tag is
implicit and whether they were written in flow style. -/
inductive EventKind where
  | streamStart
  | streamEnd
  | documentStart (explicit : Bool)
  | documentEnd (explicit : Bool)
  | reference (anchor : String)
  | scalar (anchor : Option String) (tag : Option String) (plain quoted : Bool) (text : String)
      (style : Option Char)
  | sequenceStart (anchor : Option String) (tag : Option String) (implicit flow : Bool)
  | sequenceEnd
  | mappingStart (anchor : Option String) (tag : Option String) (implicit flow : Bool)
  | mappingEnd
  deriving Repr, Inhabited

/-- An event with the positions where it starts and ends. -/
structure Event where
  kind : EventKind
  start : Mark
  stop : Mark
  deriving Repr, Inhabited

/-- The anchor an event defines, if any. -/
def Event.anchor? (e : Event) : Option String :=
  match e.kind with
  | .scalar a .. | .sequenceStart a .. | .mappingStart a .. => a
  | _ => none

/-- What the parser reads next. -/
inductive Phase where
  | streamStart
  | implicitDocumentStart
  | documentStart
  | documentEnd
  | documentContent
  | blockNode
  | blockSequenceFirstEntry
  | blockSequenceEntry
  | indentlessSequenceEntry
  | blockMappingFirstKey
  | blockMappingKey
  | blockMappingValue
  | flowSequenceFirstEntry
  | flowSequenceEntry
  | flowSequenceEntryMappingKey
  | flowSequenceEntryMappingValue
  | flowSequenceEntryMappingEnd
  | flowMappingFirstKey
  | flowMappingKey
  | flowMappingValue
  | flowMappingEmptyValue
  deriving DecidableEq, Repr, Inhabited

/-- The parser's state: the scanner, the next phase (none after the stream end), the
phases to return to, the start positions of the open collections, the tag handles in force,
and an event read but not yet taken. -/
structure Parser where
  scanner : Scanner
  phase : Option Phase
  states : List Phase
  marks : List Mark
  tagHandles : List (String × String)
  current : Option Event
  deriving Repr

/-- Computations of the parser. -/
abbrev ParseM := StateT Parser (Except YamlError)

namespace Parser

/-- The tag handles every document starts with. -/
def defaultTags : List (String × String) := [("!", "!"), ("!!", "tag:yaml.org,2002:")]

/-- The parser at the start of a text. -/
def start (text : Array Char) (unreadable : Option (Nat × Char × Nat)) : Parser :=
  { scanner := Scanner.start text unreadable, phase := some .streamStart, states := [], marks := [],
    tagHandles := [], current := none }

/-- Run a scanner computation on the parser's scanner. -/
def scan (m : ScanM α) : ParseM α := do
  let p ← get
  match m.run p.scanner with
  | .ok (a, s) =>
    set { p with scanner := s }
    pure a
  | .error e => throw e

/-- The next token, not taken. -/
def peekToken : ParseM Token := scan Scanner.peekToken

/-- Take the next token. -/
def takeToken : ParseM Token := scan Scanner.takeToken

/-- Whether the next token is of one of the classes. -/
def nextIs (classes : List TokenClass) : ParseM Bool := do
  pure (classes.contains (← peekToken).kind.cls)

/-- Return to the phase on top of the stack. -/
def popState : ParseM Unit := modify fun p =>
  match p.states with
  | q :: rest => { p with phase := some q, states := rest }
  | [] => { p with phase := none }

/-- Push a phase to return to. -/
def pushState (q : Phase) : ParseM Unit := modify fun p => { p with states := q :: p.states }

/-- Set the next phase. -/
def goTo (q : Phase) : ParseM Unit := modify fun p => { p with phase := some q }

/-- Close the innermost collection's start position. -/
def popMark : ParseM Unit := modify fun p => { p with marks := p.marks.drop 1 }

/-- The start position of the innermost open collection. -/
def topMark : ParseM Mark := do
  pure ((← get).marks.headD ⟨0, 0, 0⟩)

/-- An empty plain scalar at a position. -/
def emptyScalar (m : Mark) : Event := ⟨.scalar none none true false "" none, m, m⟩

/-- Read the directives before an explicit document: at most one `%YAML` of version 1, and
`%TAG` handles, each once. The default handles are added where not redefined. -/
def directives : ParseM Unit := do
  modify fun p => { p with tagHandles := [] }
  let mut version : Option (Nat × Nat) := none
  for _ in [0:(← get).scanner.text.size + 2] do
    if !(← nextIs [.directive]) then break
    let t ← takeToken
    match t.kind with
    | .versionDirective major minor =>
      if version.isSome then throw (YamlError.bare "found duplicate YAML directive" t.start)
      if major != 1 then
        throw (YamlError.bare "found incompatible YAML document (version 1.* is required)" t.start)
      version := some (major, minor)
    | .tagDirective handle pre =>
      if ((← get).tagHandles.lookup handle).isSome then
        throw (YamlError.bare s!"duplicate tag handle {Text.quote handle}" t.start)
      modify fun p => { p with tagHandles := p.tagHandles ++ [(handle, pre)] }
    | _ => pure ()
  modify fun p =>
    { p with tagHandles := p.tagHandles ++ defaultTags.filter fun d => (p.tagHandles.lookup d.1).isNone }

/-- A node: an alias, or properties (anchor, tag) followed by a scalar or the start of a
collection. `block` allows block collections; `indentless` allows a block sequence at the
indentation of its mapping key. -/
def node (block indentless : Bool) : ParseM Event := do
  if ← nextIs [.reference] then
    let t ← takeToken
    popState
    match t.kind with
    | .reference name => return ⟨.reference name, t.start, t.stop⟩
    | _ => return ⟨.reference "", t.start, t.stop⟩
  let mut anchor : Option String := none
  let mut tagParts : Option (Option String × String) := none
  let mut startMark : Option Mark := none
  let mut endMark : Option Mark := none
  let mut tagMark : Option Mark := none
  if ← nextIs [.anchor] then
    let t ← takeToken
    startMark := some t.start
    endMark := some t.stop
    if let .anchor name := t.kind then anchor := some name
    if ← nextIs [.tag] then
      let t ← takeToken
      tagMark := some t.start
      endMark := some t.stop
      if let .tag h s := t.kind then tagParts := some (h, s)
  else if ← nextIs [.tag] then
    let t ← takeToken
    startMark := some t.start
    tagMark := some t.start
    endMark := some t.stop
    if let .tag h s := t.kind then tagParts := some (h, s)
    if ← nextIs [.anchor] then
      let t ← takeToken
      endMark := some t.stop
      if let .anchor name := t.kind then anchor := some name
  let mut tag : Option String := none
  match tagParts with
  | some (some handle, suffix) =>
    match (← get).tagHandles.lookup handle with
    | some pre => tag := some (pre ++ suffix)
    | none =>
      throw (YamlError.at "while parsing a node" (startMark.getD ⟨0, 0, 0⟩)
        s!"found undefined tag handle {Text.quote handle}" (tagMark.getD ⟨0, 0, 0⟩))
  | some (none, suffix) => tag := some suffix
  | none => pure ()
  let next ← peekToken
  let start := startMark.getD next.start
  let stop := endMark.getD next.start
  let implicit := tag.isNone || tag == some "!"
  if indentless && next.kind.cls == .blockEntry then
    goTo .indentlessSequenceEntry
    return ⟨.sequenceStart anchor tag implicit false, start, next.stop⟩
  match next.kind with
  | .scalar text plain style =>
    let _ ← takeToken
    let (plainImplicit, quotedImplicit) :=
      if (plain && tag.isNone) || tag == some "!" then (true, false)
      else if tag.isNone then (false, true)
      else (false, false)
    popState
    return ⟨.scalar anchor tag plainImplicit quotedImplicit text style, start, next.stop⟩
  | .flowSequenceStart =>
    goTo .flowSequenceFirstEntry
    return ⟨.sequenceStart anchor tag implicit true, start, next.stop⟩
  | .flowMappingStart =>
    goTo .flowMappingFirstKey
    return ⟨.mappingStart anchor tag implicit true, start, next.stop⟩
  | .blockSequenceStart =>
    if block then
      goTo .blockSequenceFirstEntry
      return ⟨.sequenceStart anchor tag implicit false, start, next.start⟩
  | .blockMappingStart =>
    if block then
      goTo .blockMappingFirstKey
      return ⟨.mappingStart anchor tag implicit false, start, next.start⟩
  | _ => pure ()
  if anchor.isSome || tag.isSome then
    popState
    return ⟨.scalar anchor tag implicit false "" none, start, stop⟩
  let what := if block then "block" else "flow"
  throw (YamlError.at s!"while parsing a {what} node" start
    s!"expected the node content, but found {next.quotedId}" next.start)

/-- The error of a collection that does not go on as it must. -/
def collectionError (what expected : String) (verb : String) : ParseM α := do
  let t ← peekToken
  throw (YamlError.at s!"while parsing a {what}" (← topMark)
    s!"expected {expected}, but {verb} {t.quotedId}" t.start)

/-- One step of the state machine: the next event. -/
def step (q : Phase) : ParseM Event := do
  match q with
  | .streamStart =>
    let t ← takeToken
    goTo .implicitDocumentStart
    pure ⟨.streamStart, t.start, t.stop⟩
  | .implicitDocumentStart =>
    if !(← nextIs [.directive, .documentStart, .streamEnd]) then
      modify fun p => { p with tagHandles := defaultTags }
      let t ← peekToken
      pushState .documentEnd
      goTo .blockNode
      pure ⟨.documentStart false, t.start, t.start⟩
    else explicitDocumentStart
  | .documentStart => explicitDocumentStart
  | .documentEnd =>
    let t ← peekToken
    let mut stop := t.start
    let mut explicit := false
    if ← nextIs [.documentEnd] then
      let t ← takeToken
      stop := t.stop
      explicit := true
    goTo .documentStart
    pure ⟨.documentEnd explicit, t.start, stop⟩
  | .documentContent =>
    if ← nextIs [.directive, .documentStart, .documentEnd, .streamEnd] then
      let t ← peekToken
      popState
      pure (emptyScalar t.start)
    else node true false
  | .blockNode => node true false
  | .blockSequenceFirstEntry =>
    let t ← takeToken
    modify fun p => { p with marks := t.start :: p.marks }
    blockSequenceEntry
  | .blockSequenceEntry => blockSequenceEntry
  | .indentlessSequenceEntry =>
    if ← nextIs [.blockEntry] then
      let t ← takeToken
      if !(← nextIs [.blockEntry, .key, .value, .blockEnd]) then
        pushState .indentlessSequenceEntry
        node true false
      else
        goTo .indentlessSequenceEntry
        pure (emptyScalar t.stop)
    else
      let t ← peekToken
      popState
      pure ⟨.sequenceEnd, t.start, t.start⟩
  | .blockMappingFirstKey =>
    let t ← takeToken
    modify fun p => { p with marks := t.start :: p.marks }
    blockMappingKey
  | .blockMappingKey => blockMappingKey
  | .blockMappingValue =>
    if ← nextIs [.value] then
      let t ← takeToken
      if !(← nextIs [.key, .value, .blockEnd]) then
        pushState .blockMappingKey
        node true true
      else
        goTo .blockMappingKey
        pure (emptyScalar t.stop)
    else
      goTo .blockMappingKey
      pure (emptyScalar (← peekToken).start)
  | .flowSequenceFirstEntry =>
    let t ← takeToken
    modify fun p => { p with marks := t.start :: p.marks }
    flowSequenceEntry true
  | .flowSequenceEntry => flowSequenceEntry false
  | .flowSequenceEntryMappingKey =>
    let t ← takeToken
    if !(← nextIs [.value, .flowEntry, .flowSequenceEnd]) then
      pushState .flowSequenceEntryMappingValue
      node false false
    else
      goTo .flowSequenceEntryMappingValue
      pure (emptyScalar t.stop)
  | .flowSequenceEntryMappingValue =>
    if ← nextIs [.value] then
      let t ← takeToken
      if !(← nextIs [.flowEntry, .flowSequenceEnd]) then
        pushState .flowSequenceEntryMappingEnd
        node false false
      else
        goTo .flowSequenceEntryMappingEnd
        pure (emptyScalar t.stop)
    else
      goTo .flowSequenceEntryMappingEnd
      pure (emptyScalar (← peekToken).start)
  | .flowSequenceEntryMappingEnd =>
    goTo .flowSequenceEntry
    let t ← peekToken
    pure ⟨.mappingEnd, t.start, t.start⟩
  | .flowMappingFirstKey =>
    let t ← takeToken
    modify fun p => { p with marks := t.start :: p.marks }
    flowMappingKey true
  | .flowMappingKey => flowMappingKey false
  | .flowMappingValue =>
    if ← nextIs [.value] then
      let t ← takeToken
      if !(← nextIs [.flowEntry, .flowMappingEnd]) then
        pushState .flowMappingKey
        node false false
      else
        goTo .flowMappingKey
        pure (emptyScalar t.stop)
    else
      goTo .flowMappingKey
      pure (emptyScalar (← peekToken).start)
  | .flowMappingEmptyValue =>
    goTo .flowMappingKey
    pure (emptyScalar (← peekToken).start)
where
  /-- A document start after any number of document end markers, or the stream end. -/
  explicitDocumentStart : ParseM Event := do
    for _ in [0:(← get).scanner.text.size + 2] do
      if ← nextIs [.documentEnd] then
        let _ ← takeToken
      else break
    if !(← nextIs [.streamEnd]) then
      let start := (← peekToken).start
      directives
      if !(← nextIs [.documentStart]) then
        let t ← peekToken
        throw (YamlError.bare s!"expected '<document start>', but found {t.quotedId}" t.start)
      let t ← takeToken
      pushState .documentEnd
      goTo .documentContent
      pure ⟨.documentStart true, start, t.stop⟩
    else
      let t ← takeToken
      modify fun p => { p with phase := none }
      pure ⟨.streamEnd, t.start, t.stop⟩
  /-- An entry of a block sequence, or its end. -/
  blockSequenceEntry : ParseM Event := do
    if ← nextIs [.blockEntry] then
      let t ← takeToken
      if !(← nextIs [.blockEntry, .blockEnd]) then
        pushState .blockSequenceEntry
        node true false
      else
        goTo .blockSequenceEntry
        pure (emptyScalar t.stop)
    else
      if !(← nextIs [.blockEnd]) then collectionError "block collection" "<block end>" "found"
      let t ← takeToken
      popState
      popMark
      pure ⟨.sequenceEnd, t.start, t.stop⟩
  /-- A key of a block mapping, or its end. -/
  blockMappingKey : ParseM Event := do
    if ← nextIs [.key] then
      let t ← takeToken
      if !(← nextIs [.key, .value, .blockEnd]) then
        pushState .blockMappingValue
        node true true
      else
        goTo .blockMappingValue
        pure (emptyScalar t.stop)
    else
      if !(← nextIs [.blockEnd]) then collectionError "block mapping" "<block end>" "found"
      let t ← takeToken
      popState
      popMark
      pure ⟨.mappingEnd, t.start, t.stop⟩
  /-- An entry of a flow sequence, or its end. A `?` entry is a one-pair mapping. -/
  flowSequenceEntry (first : Bool) : ParseM Event := do
    if !(← nextIs [.flowSequenceEnd]) then
      if !first then
        if ← nextIs [.flowEntry] then
          let _ ← takeToken
        else collectionError "flow sequence" "',' or ']'" "got"
      if ← nextIs [.key] then
        let t ← peekToken
        goTo .flowSequenceEntryMappingKey
        return ⟨.mappingStart none none true true, t.start, t.stop⟩
      else if !(← nextIs [.flowSequenceEnd]) then
        pushState .flowSequenceEntry
        return (← node false false)
    let t ← takeToken
    popState
    popMark
    pure ⟨.sequenceEnd, t.start, t.stop⟩
  /-- A key of a flow mapping, or its end. -/
  flowMappingKey (first : Bool) : ParseM Event := do
    if !(← nextIs [.flowMappingEnd]) then
      if !first then
        if ← nextIs [.flowEntry] then
          let _ ← takeToken
        else collectionError "flow mapping" "',' or '\x7d'" "got"
      if ← nextIs [.key] then
        let t ← takeToken
        if !(← nextIs [.value, .flowEntry, .flowMappingEnd]) then
          pushState .flowMappingValue
          return (← node false false)
        else
          goTo .flowMappingValue
          return emptyScalar t.stop
      else if !(← nextIs [.flowMappingEnd]) then
        pushState .flowMappingEmptyValue
        return (← node false false)
    let t ← takeToken
    popState
    popMark
    pure ⟨.mappingEnd, t.start, t.stop⟩

/-- Make sure an event is read, unless the stream has ended. -/
def ensure : ParseM Unit := do
  let p ← get
  if p.current.isNone then
    match p.phase with
    | some q =>
      let e ← step q
      modify fun p => { p with current := some e }
    | none => pure ()

/-- The next event, not taken. -/
def peekEvent : ParseM Event := do
  ensure
  match (← get).current with
  | some e => pure e
  | none => pure ⟨.streamEnd, ⟨0, 0, 0⟩, ⟨0, 0, 0⟩⟩

/-- Take the next event. -/
def takeEvent : ParseM Event := do
  let e ← peekEvent
  modify fun p => { p with current := none }
  pure e

end Parser

end PineCheck.Yaml
