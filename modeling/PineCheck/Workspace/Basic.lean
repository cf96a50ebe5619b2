import PineCheck.Workspace.Path
import PineCheck.Text.Quote
/-!
# The workspace

The files that the checker reads and writes live in a workspace: a tree of directories and
files (raw bytes) below a root directory. Every entry's parent directory is in the tree too.

Operations fail the way the operating system does, with an error number, its words and the
path as it was given: a missing entry (`[Errno 2] No such file or directory`), a directory
where a file is wanted (`[Errno 21] Is a directory`), a file where a directory is wanted
(`[Errno 20] Not a directory`), and an existing entry where a new one is made
(`[Errno 17] File exists`).
-/

namespace PineCheck

/-- An entry of the tree. -/
inductive Node where
  | file (bytes : List UInt8)
  | dir
  deriving DecidableEq, Repr

/-- Why an operation on the tree failed. -/
inductive OsFault where
  | notFound
  | isDirectory
  | notDirectory
  | alreadyExists
  deriving DecidableEq, Repr

namespace OsFault

/-- The error number. -/
def errno : OsFault → Nat
  | .notFound => 2
  | .isDirectory => 21
  | .notDirectory => 20
  | .alreadyExists => 17

/-- The words of the error. -/
def text : OsFault → String
  | .notFound => "No such file or directory"
  | .isDirectory => "Is a directory"
  | .notDirectory => "Not a directory"
  | .alreadyExists => "File exists"

/-- The name of the kind of error. -/
def kindName : OsFault → String
  | .notFound => "FileNotFoundError"
  | .isDirectory => "IsADirectoryError"
  | .notDirectory => "NotADirectoryError"
  | .alreadyExists => "FileExistsError"

end OsFault

/-- A failed operation: why, and on which path (as given). -/
structure OsError where
  fault : OsFault
  path : String
  deriving DecidableEq, Repr

/-- The message of a failed operation. -/
def OsError.message (e : OsError) : String :=
  let errno := e.fault.errno
  s!"[Errno {errno}] " ++ e.fault.text ++ ": " ++ Text.quote e.path

/-- A tree of directories and files below a root. -/
structure Workspace where
  /-- Every entry below the root, by its path. -/
  entries : List (RelPath × Node)
  deriving Repr

/-- Where resolving a path ends. -/
inductive Lookup where
  /-- At an entry (the root is a directory), under its path without `..`. -/
  | found (path : RelPath) (node : Node)
  /-- Nothing is there. -/
  | missing
  /-- A file stands where a directory should. -/
  | blocked
  deriving DecidableEq, Repr

namespace Workspace

/-- The empty workspace. -/
def empty : Workspace := ⟨[]⟩

/-- The entry at a path without `..`; the root is a directory. -/
def node? (w : Workspace) (p : RelPath) : Option Node :=
  if p.isEmpty then some .dir else (w.entries.find? (·.1 == p)).map (·.2)

/-- Resolve the components `rest` from the directory `at`. -/
def resolveFrom (w : Workspace) (here : RelPath) : RelPath → Lookup
  | [] => .found here .dir
  | c :: rest =>
    let next := if c == ".." then here.dropLast else here ++ [c]
    if c == ".." && here.isEmpty then .missing
    else
      match w.node? next with
      | none => .missing
      | some .dir => w.resolveFrom next rest
      | some (.file bytes) => if rest.isEmpty then .found next (.file bytes) else .blocked

/-- Resolve a path from the root. -/
def lookup (w : Workspace) (p : RelPath) : Lookup := w.resolveFrom [] p

/-- Whether a path names a file. -/
def isFile (w : Workspace) (p : RelPath) : Bool :=
  match w.lookup p with
  | .found _ (.file _) => true
  | _ => false

/-- Whether a path names a directory. -/
def isDir (w : Workspace) (p : RelPath) : Bool :=
  match w.lookup p with
  | .found _ .dir => true
  | _ => false

/-- Whether a path names an entry. -/
def hasEntry (w : Workspace) (p : RelPath) : Bool :=
  match w.lookup p with
  | .found _ _ => true
  | _ => false

/-- The bytes of a file. -/
def readFile (w : Workspace) (p : RelPath) : Except OsError (List UInt8) :=
  match w.lookup p with
  | .found _ (.file bytes) => .ok bytes
  | .found _ .dir => .error ⟨.isDirectory, p.render⟩
  | .missing => .error ⟨.notFound, p.render⟩
  | .blocked => .error ⟨.notDirectory, p.render⟩

/-- The tree with an entry put at a path without `..`, replacing one there. -/
def put (w : Workspace) (p : RelPath) (n : Node) : Workspace :=
  if w.entries.any (·.1 == p) then ⟨w.entries.map fun e => if e.1 == p then (p, n) else e⟩
  else ⟨w.entries ++ [(p, n)]⟩

/-- Write a file, creating or replacing it; its directory must exist. -/
def writeFile (w : Workspace) (p : RelPath) (bytes : List UInt8) : Except OsError Workspace :=
  match p.getLast? with
  | none => .error ⟨.isDirectory, p.render⟩
  | some name =>
    match w.lookup p.dropLast with
    | .found dir .dir =>
      let target := dir ++ [name]
      match w.node? target with
      | some .dir => .error ⟨.isDirectory, p.render⟩
      | _ => .ok (w.put target (.file bytes))
    | .found _ (.file _) => .error ⟨.notDirectory, p.render⟩
    | .blocked => .error ⟨.notDirectory, p.render⟩
    | .missing => .error ⟨.notFound, p.render⟩

/-- Make one directory; its parent must be a directory and the path must be free. -/
def makeDir (w : Workspace) (p : RelPath) : Except OsError Workspace :=
  match p.getLast? with
  | none => .error ⟨.alreadyExists, p.render⟩
  | some name =>
    match w.lookup p.dropLast with
    | .found dir .dir =>
      let target := dir ++ [name]
      match w.node? target with
      | some _ => .error ⟨.alreadyExists, p.render⟩
      | none => .ok (w.put target .dir)
    | .found _ (.file _) => .error ⟨.notDirectory, p.render⟩
    | .blocked => .error ⟨.notDirectory, p.render⟩
    | .missing => .error ⟨.notFound, p.render⟩

/-- `makeDirs` on a path given last component first. -/
def makeDirsRev (w : Workspace) : List String → Except OsError Workspace
  | [] => .ok w
  | c :: rest =>
    let p := (c :: rest).reverse
    match w.makeDir p with
    | .ok w' => .ok w'
    | .error e =>
      if e.fault == .notFound && !rest.isEmpty then
        match w.makeDirsRev rest with
        | .ok w' =>
          match w'.makeDir p with
          | .ok w'' => .ok w''
          | .error e' => if w'.isDir p then .ok w' else .error e'
        | .error e' => .error e'
      else if e.fault != .notFound && w.isDir p then .ok w
      else .error e

/-- Make a directory and any missing parents; an existing directory is fine. A missing
parent is made first; any other failure stands unless the path is a directory already. -/
def makeDirs (w : Workspace) (p : RelPath) : Except OsError Workspace := w.makeDirsRev p.reverse

/-- The tree with a file written at a path, its missing parent directories made first;
unchanged where the tree refuses. -/
def withFile (w : Workspace) (p : RelPath) (bytes : List UInt8) : Workspace :=
  match w.makeDirs p.dropLast with
  | .ok w' =>
    match w'.writeFile p bytes with
    | .ok w'' => w''
    | .error _ => w'
  | .error _ => w

/-- The tree with a directory and its missing parents made; unchanged where the tree
refuses. -/
def withDir (w : Workspace) (p : RelPath) : Workspace :=
  match w.makeDirs p with
  | .ok w' => w'
  | .error _ => w

/-- The names in a directory, in no particular order; none when the path names no
directory. -/
def childNames (w : Workspace) (dir : RelPath) : List String :=
  match w.lookup dir with
  | .found real .dir =>
    w.entries.filterMap fun (p, _) =>
      if p.dropLast == real && p.length == real.length + 1 then p.getLast? else none
  | _ => []

/-- Every entry as a path text, directories marked by a final `/`, in text order. -/
def listing (w : Workspace) : List String :=
  (w.entries.map fun (p, n) => match n with
    | .dir => p.render ++ "/"
    | .file _ => p.render).mergeSort fun a b => decide (a ≤ b)

end Workspace

end PineCheck
