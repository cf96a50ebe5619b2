import PineCheck.Workspace.Basic
import PineCheck.Text.Utf8
/-!
# Reading text files

A text file is read as UTF-8, and every line end (`\r\n`, or a `\r` alone) then reads as a
line feed. Reading fails when the file cannot be opened or its bytes are not UTF-8.
-/

namespace PineCheck

/-- Why a text file could not be read. -/
inductive ReadError where
  | os (e : OsError)
  | decode (e : Utf8.DecodeError)
  deriving Repr

namespace ReadError

/-- The message of a failed read. -/
def message : ReadError → String
  | .os e => e.message
  | .decode e => e.message

/-- The name of the kind of error. -/
def kindName : ReadError → String
  | .os e => e.fault.kindName
  | .decode _ => "UnicodeDecodeError"

end ReadError

/-- Line ends as line feeds: `\r\n` and a lone `\r` become `\n`. -/
def unifyLineEnds : List Char → List Char
  | '\r' :: '\n' :: rest => '\n' :: unifyLineEnds rest
  | '\r' :: rest => '\n' :: unifyLineEnds rest
  | c :: rest => c :: unifyLineEnds rest
  | [] => []

/-- The text of a file, with unified line ends. -/
def Workspace.readText (w : Workspace) (p : RelPath) : Except ReadError String :=
  match w.readFile p with
  | .error e => .error (.os e)
  | .ok bytes =>
    match Utf8.decodeUtf8 bytes with
    | .error e => .error (.decode e)
    | .ok s => .ok (String.ofList (unifyLineEnds s.toList))

/-- The number of bytes a text stream decodes at a time. -/
def streamBlockSize : Nat := 8192

/-- Where the decoder restarts for the block that starts at byte `boundary`: at the boundary,
or earlier at the first byte of a character that the previous block left unfinished. -/
def restartPoint (bytes : List UInt8) (boundary : Nat) : Nat :=
  if boundary == 0 then 0
  else
    let back := ((List.range 4).map (boundary - 1 - ·)).filter (· < boundary)
    let lead := back.find? fun i => !Utf8.isContinuation (bytes.getD i 0)
    match lead with
    | some j =>
      match Utf8.sequenceLength (bytes.getD j 0) with
      | some len => if j + len > boundary then j else boundary
      | none => boundary
    | none => boundary

/-- A decoding error as a text stream reports it. The stream decodes block by block and
holds back an unfinished character at the end of a block until the next one, so positions
count from where the decoder restarted for the block that revealed the error; an unfinished
character at the very end is only reported at the end of the bytes, on its own. -/
def streamedError (bytes : List UInt8) (e : Utf8.DecodeError) : Utf8.DecodeError :=
  let base :=
    match e.fault with
    | .unexpectedEnd => e.start
    | .invalidStart => restartPoint bytes (e.start / streamBlockSize * streamBlockSize)
    | .invalidContinuation => restartPoint bytes (e.stop / streamBlockSize * streamBlockSize)
  { e with start := e.start - base, stop := e.stop - base }

/-- The text of a file read as a stream in blocks, with unified line ends. -/
def Workspace.readTextStreamed (w : Workspace) (p : RelPath) : Except ReadError String :=
  match w.readFile p with
  | .error e => .error (.os e)
  | .ok bytes =>
    match Utf8.decodeUtf8 bytes with
    | .error e => .error (.decode (streamedError bytes e))
    | .ok s => .ok (String.ofList (unifyLineEnds s.toList))

/-- Write a text file as UTF-8. -/
def Workspace.writeText (w : Workspace) (p : RelPath) (s : String) : Except OsError Workspace :=
  w.writeFile p (Utf8.encodeUtf8 s)

end PineCheck
