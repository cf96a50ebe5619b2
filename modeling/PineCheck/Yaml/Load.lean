import PineCheck.Yaml.Parser
import PineCheck.Yaml.Scalar
/-!
# Loading a YAML document

Loading reads a stream of at most one document into a value, in three steps.

1. Every character must be readable: tab, line feed, carriage return, the printable ASCII
   characters, next line (`\x85`), and the code points from `\xa0` on except surrogates and
   the two non-characters U+FFFE and U+FFFF. The text is checked chunk by chunk as it is
   read (`PineCheck.Yaml.Scanner`).
2. The composer builds the document's node tree from the parser's events. An anchor names
   a node; an alias stands for the node its anchor named (a collection refers to itself when
   the alias is inside it). Each anchor is defined once. Plain scalars without a tag get
   their tag from their text; other nodes get the standard string, sequence or mapping tag.
3. The constructor builds the value from the tree. Scalars are built at once, collections
   later: the root first, then the collections it holds, level by level, in the order they
   were met. So when a document has several faults, the fault found first is the one
   reported. Merge keys (`<<`) copy the pairs of the mappings they name into their mapping,
   ahead of its own pairs. A key must not be a collection.
-/

namespace PineCheck.Yaml

/-- A node of a document: a scalar, a sequence or a mapping, with its tag and the position
where it starts. -/
inductive Node where
  | scalar (tag : String) (text : String) (start : Mark)
  | sequence (tag : String) (items : List Node) (start : Mark)
  | mapping (tag : String) (pairs : List (Node × Node)) (start : Mark)
  deriving Inhabited

namespace Node

/-- The node's tag. -/
def tag : Node → String
  | .scalar t .. | .sequence t .. | .mapping t .. => t

/-- Where the node starts. -/
def start : Node → Mark
  | .scalar _ _ m | .sequence _ _ m | .mapping _ _ m => m

/-- The name of the node's kind in messages. -/
def id : Node → String
  | .scalar .. => "scalar"
  | .sequence .. => "sequence"
  | .mapping .. => "mapping"

/-- The node with another tag. -/
def withTag (t : String) : Node → Node
  | .scalar _ s m => .scalar t s m
  | .sequence _ s m => .sequence t s m
  | .mapping _ s m => .mapping t s m

end Node

/-- An anchored node: still open (a collection being read, known by an empty stand-in) or
complete. -/
inductive Anchored where
  | opened (standIn : Node)
  | closed (node : Node)

/-- The node an anchor stands for now. -/
def Anchored.node : Anchored → Node
  | .opened n | .closed n => n

/-- The composer's state: the parser and the anchors defined so far. -/
structure Composer where
  parser : Parser
  anchors : List (String × Anchored)

/-- Computations of the composer. -/
abbrev ComposeM := StateT Composer (Except YamlError)

namespace Composer

/-- Run a parser computation on the composer's parser. -/
def parse (m : ParseM α) : ComposeM α := do
  let c ← get
  match m.run c.parser with
  | .ok (a, p) =>
    set { c with parser := p }
    pure a
  | .error e => throw e

/-- The next event, not taken. -/
def peekEvent : ComposeM Event := parse Parser.peekEvent

/-- Take the next event. -/
def takeEvent : ComposeM Event := parse Parser.takeEvent

/-- Define or redefine an anchor. -/
def define (anchor : Option String) (a : Anchored) : ComposeM Unit :=
  match anchor with
  | none => pure ()
  | some name => modify fun c =>
    if (c.anchors.lookup name).isSome then
      { c with anchors := c.anchors.map fun e => if e.1 == name then (name, a) else e }
    else { c with anchors := c.anchors ++ [(name, a)] }

/-- The error of events that run out before their nodes end. -/
def truncated (m : Mark) : YamlError := YamlError.bare "unexpected end of events" m

/-- The deepest level at which the composer takes a node: it goes one level deeper for each
collection it opens, and it runs with a bounded depth. -/
def maxDepth : Nat := 489

mutual
/-- A node and everything in it, `depth` collections deep (the root is at depth 0). -/
def node : Nat → Nat → ComposeM Node
  | 0, _ => do throw (truncated (← peekEvent).start)
  | fuel + 1, depth => do
    if depth ≥ maxDepth then throw .tooDeep
    let e ← peekEvent
    if let .reference name := e.kind then
      let _ ← takeEvent
      match (← get).anchors.lookup name with
      | some a => return a.node
      | none => throw (YamlError.bare s!"found undefined alias {Text.quote name}" e.start)
    let anchor := e.anchor?
    if let some name := anchor then
      if let some prev := (← get).anchors.lookup name then
        throw (.marked (some s!"found duplicate anchor {Text.quote name}; first occurrence")
          (some prev.node.start) "second occurrence" (some e.start))
    match e.kind with
    | .scalar _ tag plain _ text _ =>
      let _ ← takeEvent
      let tag := match tag with
        | none => if plain then resolveTag text else stdTag "str"
        | some "!" => if plain then resolveTag text else stdTag "str"
        | some t => t
      let n := Node.scalar tag text e.start
      define anchor (.closed n)
      return n
    | .sequenceStart _ tag _ _ =>
      let _ ← takeEvent
      let tag := match tag with
        | none => stdTag "seq"
        | some "!" => stdTag "seq"
        | some t => t
      define anchor (.opened (.sequence tag [] e.start))
      let items ← sequenceItems fuel (depth + 1) []
      let _ ← takeEvent
      let n := Node.sequence tag items e.start
      define anchor (.closed n)
      return n
    | .mappingStart _ tag _ _ =>
      let _ ← takeEvent
      let tag := match tag with
        | none => stdTag "map"
        | some "!" => stdTag "map"
        | some t => t
      define anchor (.opened (.mapping tag [] e.start))
      let pairs ← mappingPairs fuel (depth + 1) []
      let _ ← takeEvent
      let n := Node.mapping tag pairs e.start
      define anchor (.closed n)
      return n
    | _ => throw (truncated e.start)

/-- The items of a sequence at `depth`, up to its end event. -/
def sequenceItems : Nat → Nat → List Node → ComposeM (List Node)
  | 0, _, _ => do throw (truncated (← peekEvent).start)
  | fuel + 1, depth, acc => do
    match (← peekEvent).kind with
    | .sequenceEnd => return acc.reverse
    | _ =>
      let n ← node fuel depth
      sequenceItems fuel depth (n :: acc)

/-- The pairs of a mapping at `depth`, up to its end event. -/
def mappingPairs : Nat → Nat → List (Node × Node) → ComposeM (List (Node × Node))
  | 0, _, _ => do throw (truncated (← peekEvent).start)
  | fuel + 1, depth, acc => do
    match (← peekEvent).kind with
    | .mappingEnd => return acc.reverse
    | _ =>
      let k ← node fuel depth
      let v ← node fuel depth
      mappingPairs fuel depth ((k, v) :: acc)
end

/-- Whether the next event ends the stream. -/
def atStreamEnd : ComposeM Bool := do
  match (← peekEvent).kind with
  | .streamEnd => pure true
  | _ => pure false

/-- The single document of a stream, if there is one. A second document is an error. -/
def singleDocument (fuel : Nat) : ComposeM (Option Node) := do
  let _ ← takeEvent
  let mut doc : Option Node := none
  if !(← atStreamEnd) then
    let _ ← takeEvent
    let n ← node fuel 0
    let _ ← takeEvent
    modify fun c => { c with anchors := [] }
    doc := some n
  if !(← atStreamEnd) then
    let e ← takeEvent
    throw (.marked (some "expected a single document in the stream") (doc.map Node.start)
      "but found another document" (some e.start))
  let _ ← takeEvent
  pure doc

end Composer

/-! ## Building values -/

/-- Why a document could not be loaded: a YAML error or a refused conversion, which readers
of settings files catch, or a failure of another kind that escapes them. -/
inductive LoadError where
  | caught (e : YamlError)
  | escaped (kind : String) (message : String)
  deriving Repr

/-- The kinds of collections. -/
inductive CollectionKind where
  | seq | map | set | omap | pairs
  deriving DecidableEq, Repr

/-- The name of the kind of value a collection builds. -/
def CollectionKind.kindName : CollectionKind → String
  | .seq | .omap | .pairs => "list"
  | .map => "dict"
  | .set => "set"

/-- What building a node does at once: a finished scalar value with the name of its kind, or
a collection to fill later. -/
inductive Start where
  | now (v : Value) (kind : String)
  | later (kind : CollectionKind)

/-- A scalar conversion failure as a load error. -/
def ScalarFault.toLoad : ScalarFault → LoadError
  | .refused m => .caught (.badValue m)
  | .escaped k m => .escaped k m

/-- A construction error with no context. -/
def constructError (problem : String) (m : Mark) : LoadError := .caught (YamlError.bare problem m)

/-- The text of a scalar node; other nodes are an error. -/
def scalarText (n : Node) : Except LoadError String :=
  match n with
  | .scalar _ s _ => .ok s
  | _ => .error (constructError s!"expected a scalar node, but found {n.id}" n.start)

/-- A scalar conversion, with its failure as a load error. -/
def convert (r : Except ScalarFault α) : Except LoadError α :=
  match r with
  | .ok a => .ok a
  | .error f => .error f.toLoad

/-- Start building a node, by its tag. -/
def startNode (n : Node) : Except LoadError Start := do
  let t := n.tag
  if t == stdTag "null" then
    let _ ← scalarText n
    return .now .null "NoneType"
  if t == stdTag "bool" then return .now (.bool (← convert (boolScalar (← scalarText n)))) "bool"
  if t == stdTag "int" then return .now (.int (← convert (intScalar (← scalarText n)))) "int"
  if t == stdTag "float" then return .now (.float (← convert (floatScalar (← scalarText n)))) "float"
  if t == stdTag "str" then return .now (.str (← scalarText n)) "str"
  if t == stdTag "timestamp" then
    let v ← convert (stampScalar (← scalarText n))
    return .now v (match v with | .date _ => "date" | _ => "datetime")
  if t == stdTag "binary" then
    match binaryScalar (← scalarText n) with
    | .ok data => return .now (.bytes data) "bytes"
    | .error m => throw (constructError m n.start)
  if t == stdTag "seq" then return .later .seq
  if t == stdTag "map" then return .later .map
  if t == stdTag "set" then return .later .set
  if t == stdTag "omap" then return .later .omap
  if t == stdTag "pairs" then return .later .pairs
  throw (constructError s!"could not determine a constructor for the tag {Text.quote t}" n.start)

/-- A construction error inside a mapping. -/
def mappingError (start : Mark) (problem : String) (m : Mark) : LoadError :=
  .caught (YamlError.at "while constructing a mapping" start problem m)

/-- The pairs of a mapping with its merge keys applied: the pairs of each merged mapping
(for a list of mappings, the later ones first) come ahead of the mapping's own pairs. A `=`
key reads as a text. -/
def flatten : Nat → Mark → List (Node × Node) → Except LoadError (List (Node × Node))
  | 0, _, pairs => .ok pairs
  | fuel + 1, start, pairs => do
    let mut merged : Array (Node × Node) := #[]
    let mut kept : Array (Node × Node) := #[]
    for (k, v) in pairs do
      if k.tag == stdTag "merge" then
        match v with
        | .mapping _ inner m => merged := merged ++ (← flatten fuel m inner).toArray
        | .sequence _ items _ =>
          let mut groups : Array (List (Node × Node)) := #[]
          for sub in items do
            match sub with
            | .mapping _ inner m => groups := groups.push (← flatten fuel m inner)
            | _ => throw (mappingError start s!"expected a mapping for merging, but found {sub.id}" sub.start)
          for g in groups.toList.reverse do
            merged := merged ++ g.toArray
        | .scalar .. =>
          throw (mappingError start "expected a mapping or list of mappings for merging, but found scalar" v.start)
      else if k.tag == stdTag "value" then kept := kept.push (k.withTag (stdTag "str"), v)
      else kept := kept.push (k, v)
    return merged.toList ++ kept.toList

/-- Start building a node met inside a collection: its fault, or the collections left to
fill (itself, when it is one). -/
def startInside (n : Node) : Except LoadError (List (Node × CollectionKind)) := do
  match ← startNode n with
  | .now _ _ => pure []
  | .later k => pure [(n, k)]

/-- The error of an ordered map or pairs whose items are not one-pair mappings. -/
def orderedError (what : String) (start : Mark) (problem : String) (m : Mark) : LoadError :=
  .caught (YamlError.at s!"while constructing {what}" start problem m)

/-- Fill one collection: check its shape and start its members in order. Gives the
collections met inside it, to fill on the next level. -/
def fill (fuel : Nat) (n : Node) (k : CollectionKind) : Except LoadError (List (Node × CollectionKind)) := do
  match k with
  | .seq =>
    match n with
    | .sequence _ items _ =>
      let mut later : Array (Node × CollectionKind) := #[]
      for item in items do
        later := later ++ (← startInside item).toArray
      return later.toList
    | _ => throw (constructError s!"expected a sequence node, but found {n.id}" n.start)
  | .map | .set =>
    match n with
    | .mapping _ pairs start =>
      let mut later : Array (Node × CollectionKind) := #[]
      for (key, v) in ← flatten fuel start pairs do
        match ← startNode key with
        | .later _ => throw (mappingError start "found unhashable key" key.start)
        | .now _ _ => pure ()
        later := later ++ (← startInside v).toArray
      return later.toList
    | _ => throw (constructError s!"expected a mapping node, but found {n.id}" n.start)
  | .omap | .pairs =>
    let what := if k == .omap then "an ordered map" else "pairs"
    match n with
    | .sequence _ items start =>
      let mut later : Array (Node × CollectionKind) := #[]
      for sub in items do
        match sub with
        | .mapping _ [(key, v)] _ =>
          later := later ++ (← startInside key).toArray
          later := later ++ (← startInside v).toArray
        | .mapping _ more _ =>
          throw (orderedError what start s!"expected a single mapping item, but found {more.length} items" sub.start)
        | _ => throw (orderedError what start s!"expected a mapping of length 1, but found {sub.id}" sub.start)
      return later.toList
    | _ => throw (orderedError what n.start s!"expected a sequence, but found {n.id}" n.start)

/-- Fill collections level by level, stopping at the first fault. -/
def fillLevels : Nat → List (Node × CollectionKind) → Except LoadError Unit
  | 0, _ => .ok ()
  | fuel + 1, level => do
    if level.isEmpty then return
    let mut next : Array (Node × CollectionKind) := #[]
    for (n, k) in level do
      next := next ++ (← fill fuel n k).toArray
    fillLevels fuel next.toList

/-- The value of a node known to build without fault. -/
def build : Nat → Node → Value
  | 0, _ => .null
  | fuel + 1, n =>
    match startNode n with
    | .ok (.now v _) => v
    | .ok (.later k) =>
      match k, n with
      | .seq, .sequence _ items _ => .list (items.map (build fuel))
      | .map, .mapping _ pairs start =>
        let flat := (flatten fuel start pairs).toOption.getD pairs
        .object (Value.ofEntries (flat.map fun (key, v) => (build fuel key, build fuel v)))
      | .set, .mapping _ pairs start =>
        let flat := (flatten fuel start pairs).toOption.getD pairs
        .object (Value.ofEntries (flat.map fun (key, _) => (build fuel key, .null)))
      | _, .sequence _ items _ =>
        .list (items.filterMap fun sub => match sub with
          | .mapping _ [(key, v)] _ => some (.list [build fuel key, build fuel v])
          | _ => none)
      | _, _ => .null
    | .error _ => .null

/-- A loaded document: its value and the name of the value's kind. -/
structure Loaded where
  value : Value
  kind : String

/-- Build the value of a document's root node. -/
def construct (fuel : Nat) (root : Node) : Except LoadError Loaded := do
  match ← startNode root with
  | .now v kind => pure ⟨v, kind⟩
  | .later k =>
    fillLevels fuel [(root, k)]
    pure ⟨build fuel root, k.kindName⟩

/-- Whether a character may appear in a YAML stream. -/
def isReadable (c : Char) : Bool :=
  let n := c.toNat
  n == 0x09 || n == 0x0A || n == 0x0D || (0x20 ≤ n && n ≤ 0x7E) || n == 0x85 ||
    (0xA0 ≤ n && n ≤ 0xD7FF) || (0xE000 ≤ n && n ≤ 0xFFFD) || 0x10000 ≤ n

/-- The first character that may not appear in a stream, with its offset. -/
def firstUnreadable (s : List Char) : Option (Char × Nat) :=
  match s.findIdx? (fun c => !isReadable c) with
  | some i => s[i]?.map fun c => (c, i)
  | none => none

/-- The size of the chunks a stream is read in. -/
def chunkSize : Nat := 4096

/-- Load the single document of a YAML text; an empty stream loads as null. The first two
chunks of the text are read at once, so an unreadable character in them is an error before
anything else; one further on is met when the scanner reads its chunk. -/
def load (text : String) : Except LoadError Loaded := do
  let cs := text.toList
  let unreadable := (firstUnreadable cs).map fun (c, pos) => (pos / chunkSize * chunkSize, c, pos)
  if let some (chunk, c, pos) := unreadable then
    if chunk < 2 * chunkSize then throw (.caught (.unacceptable c pos))
  let chars := cs.toArray
  let fuel := 8 * chars.size + 64
  match (Composer.singleDocument fuel).run' ⟨Parser.start chars unreadable, []⟩ with
  | .error .tooDeep => throw (.escaped "RecursionError" (YamlError.tooDeep.message ""))
  | .error e => throw (.caught e)
  | .ok none => pure ⟨.null, "NoneType"⟩
  | .ok (some root) => construct (chars.size + 2) root

end PineCheck.Yaml
