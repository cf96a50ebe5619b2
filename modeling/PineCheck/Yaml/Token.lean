import PineCheck.Text.Quote
/-!
# YAML tokens, positions and errors

A YAML stream is read in three layers: the scanner cuts the characters into tokens, the
parser groups tokens into events, and the composer builds nodes from events. This module
holds what the layers share: positions in the text (`Mark`), tokens, and the error that any
layer reports.

An error names what was being read (the context, with where it began) and what went wrong
(the problem, with where it was found). Positions are written 1-based, with the name of the
stream they were read from; a context position equal to the problem position is written once.
-/

namespace PineCheck.Yaml

/-- A position in the text: the character offset and the 0-based line and column. -/
structure Mark where
  index : Nat
  line : Nat
  column : Nat
  deriving DecidableEq, Repr, Inhabited

/-- The line naming a position in the stream called `name`. -/
def Mark.render (name : String) (m : Mark) : String :=
  s!"  in \"{name}\", line {m.line + 1}, column {m.column + 1}"

/-- Why a YAML stream could not be read. -/
inductive YamlError where
  /-- A syntax or structure error: an optional context with its position, the problem and
  an optional position of the problem. -/
  | marked (context : Option String) (contextMark : Option Mark) (problem : String)
      (problemMark : Option Mark)
  /-- A character that may not appear in a stream, at a character offset. -/
  | unacceptable (c : Char) (position : Nat)
  /-- A scalar that names a value out of range, with the message of the refusal. -/
  | badValue (message : String)
  /-- Collections nested deeper than the composer goes. -/
  | tooDeep
  deriving Repr

/-- The message of a YAML error, for a stream called `name`. -/
def YamlError.message (name : String) : YamlError → String
  | .marked context contextMark problem problemMark =>
    let head := context.toList
    let contextLine :=
      match contextMark with
      | none => []
      | some cm =>
        match problemMark with
        | some pm => if cm.line == pm.line && cm.column == pm.column then [] else [cm.render name]
        | none => [cm.render name]
    let tail := problem :: (problemMark.map (Mark.render name)).toList
    "\n".intercalate (head ++ contextLine ++ tail)
  | .unacceptable c position =>
    s!"unacceptable character #x{Text.hexPadded 4 c.toNat}: special characters are not allowed\n"
      ++ s!"  in \"{name}\", position {position}"
  | .badValue message => message
  | .tooDeep => "maximum recursion depth exceeded"

/-- A syntax error met while reading `context` (begun at `contextMark`): `problem` at
`problemMark`. -/
def YamlError.at (context : String) (contextMark : Mark) (problem : String) (problemMark : Mark) :
    YamlError :=
  .marked (some context) (some contextMark) problem (some problemMark)

/-- A syntax error with no context. -/
def YamlError.bare (problem : String) (problemMark : Mark) : YamlError :=
  .marked none none problem (some problemMark)

/-- The kinds of tokens. -/
inductive TokenKind where
  | streamStart
  | streamEnd
  /-- A `%YAML major.minor` directive. -/
  | versionDirective (major minor : Nat)
  /-- A `%TAG handle prefix` directive. -/
  | tagDirective (handle pre : String)
  /-- Any other directive, which is read and ignored. -/
  | otherDirective (name : String)
  | documentStart
  | documentEnd
  | blockSequenceStart
  | blockMappingStart
  | blockEnd
  | flowSequenceStart
  | flowMappingStart
  | flowSequenceEnd
  | flowMappingEnd
  | key
  | value
  | blockEntry
  | flowEntry
  | reference (name : String)
  | anchor (name : String)
  /-- A tag: its handle (none for a verbatim tag) and suffix. -/
  | tag (handle : Option String) (suffix : String)
  /-- A scalar: its text, whether it was written plain, and its quote or block style. -/
  | scalar (text : String) (plain : Bool) (style : Option Char)
  deriving Repr, Inhabited

/-- How a token is named in error messages. -/
def TokenKind.id : TokenKind → String
  | .streamStart => "<stream start>"
  | .streamEnd => "<stream end>"
  | .versionDirective .. | .tagDirective .. | .otherDirective _ => "<directive>"
  | .documentStart => "<document start>"
  | .documentEnd => "<document end>"
  | .blockSequenceStart => "<block sequence start>"
  | .blockMappingStart => "<block mapping start>"
  | .blockEnd => "<block end>"
  | .flowSequenceStart => "["
  | .flowMappingStart => "\x7b"
  | .flowSequenceEnd => "]"
  | .flowMappingEnd => "\x7d"
  | .key => "?"
  | .value => ":"
  | .blockEntry => "-"
  | .flowEntry => ","
  | .reference _ => "<alias>"
  | .anchor _ => "<anchor>"
  | .tag .. => "<tag>"
  | .scalar .. => "<scalar>"

/-- The kind of a token without its contents, for comparing kinds. -/
inductive TokenClass where
  | streamStart | streamEnd | directive | documentStart | documentEnd
  | blockSequenceStart | blockMappingStart | blockEnd
  | flowSequenceStart | flowMappingStart | flowSequenceEnd | flowMappingEnd
  | key | value | blockEntry | flowEntry | reference | anchor | tag | scalar
  deriving DecidableEq, Repr

/-- The class of a token kind. -/
def TokenKind.cls : TokenKind → TokenClass
  | .streamStart => .streamStart
  | .streamEnd => .streamEnd
  | .versionDirective .. | .tagDirective .. | .otherDirective _ => .directive
  | .documentStart => .documentStart
  | .documentEnd => .documentEnd
  | .blockSequenceStart => .blockSequenceStart
  | .blockMappingStart => .blockMappingStart
  | .blockEnd => .blockEnd
  | .flowSequenceStart => .flowSequenceStart
  | .flowMappingStart => .flowMappingStart
  | .flowSequenceEnd => .flowSequenceEnd
  | .flowMappingEnd => .flowMappingEnd
  | .key => .key
  | .value => .value
  | .blockEntry => .blockEntry
  | .flowEntry => .flowEntry
  | .reference _ => .reference
  | .anchor _ => .anchor
  | .tag .. => .tag
  | .scalar .. => .scalar

/-- A token with the positions where it starts and ends. -/
structure Token where
  kind : TokenKind
  start : Mark
  stop : Mark
  deriving Repr, Inhabited

/-- The token's name in error messages, quoted. -/
def Token.quotedId (t : Token) : String := Text.quote t.kind.id

end PineCheck.Yaml
