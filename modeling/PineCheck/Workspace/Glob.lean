import PineCheck.Workspace.Basic
/-!
# Finding files by pattern

A pattern is a relative path whose components may hold wildcards: `*` (any run of
characters, a leading dot included), `?` (one character) and `[…]` (one character of a set;
`[!…]` for one not in it). A component that is exactly `**` stands for the directory it is
in and every directory below it. A component without wildcards must name an existing
entry. Every component but the last must lead to a directory.

`discover` turns a list of patterns into the files they name: a pattern that names a file
gives that file; any other is matched against the tree and gives the files (not
directories) it matches. The result holds each file once, in component-wise order.
-/

namespace PineCheck

/-- Why a pattern is refused. -/
inductive PatternError where
  /-- The pattern is empty. -/
  | empty (pattern : String)
  /-- `**` is part of a component but not all of it. -/
  | partialRecursion
  /-- The pattern has no component at all (`.`). -/
  | noComponent
  /-- The pattern names only the directory it starts from, with a final `/` (`./`): the
  selection it builds has nothing to select with. -/
  | bareDirectory
  deriving DecidableEq, Repr

namespace PatternError

/-- The message of a refused pattern. -/
def message : PatternError → String
  | .empty pattern => "Unacceptable pattern: " ++ Text.quote pattern
  | .partialRecursion => "Invalid pattern: '**' can only be an entire path component"
  | .noComponent => "tuple index out of range"
  | .bareDirectory => "'_TerminatingSelector' object has no attribute 'select_from'"

/-- The name of the kind of error. -/
def kindName : PatternError → String
  | .empty _ => "ValueError"
  | .partialRecursion => "ValueError"
  | .noComponent => "IndexError"
  | .bareDirectory => "AttributeError"

end PatternError

/-- The items of a bracket set: single characters and ranges. -/
def setItems : List Char → List (Char × Char)
  | a :: '-' :: b :: rest => (a, b) :: setItems rest
  | a :: rest => (a, a) :: setItems rest
  | [] => []

/-- Whether a character is in a bracket set. -/
def inSet (items : List Char) (c : Char) : Bool :=
  (setItems items).any fun (lo, hi) => lo ≤ c && c ≤ hi

/-- A bracket expression at the head of a pattern (after its `[`): whether it is negated,
its items and how many characters it takes (its closing `]` included), when it is closed.
A `]` right after the `[` or `[!` is an item. -/
def bracketSet? (cs : List Char) : Option (Bool × List Char × Nat) :=
  let (negated, skip) := match cs with
    | '!' :: _ => (true, 1)
    | _ => (false, 0)
  let body := cs.drop skip
  let (first, skip') := match body with
    | ']' :: _ => ([']'], 1)
    | _ => ([], 0)
  let rest := body.drop skip'
  match rest.idxOf? ']' with
  | some j =>
    if j < rest.length then some (negated, first ++ rest.take j, skip + skip' + j + 1) else none
  | none => none

/-- Whether a name matches a component pattern, wholly. -/
def nameMatches (pat name : List Char) : Bool :=
  match pat, name with
  | [], name => name.isEmpty
  | '*' :: pat, name =>
    nameMatches pat name ||
      match name with
      | [] => false
      | _ :: rest => nameMatches ('*' :: pat) rest
  | '?' :: pat, name =>
    match name with
    | [] => false
    | _ :: rest => nameMatches pat rest
  | '[' :: pat, name =>
    match bracketSet? pat with
    | some (negated, items, used) =>
      match name with
      | [] => false
      | c :: rest => (inSet items c != negated) && nameMatches (pat.drop used) rest
    | none =>
      match name with
      | '[' :: rest => nameMatches pat rest
      | _ => false
  | p :: pat, name =>
    match name with
    | c :: rest => c == p && nameMatches pat rest
    | [] => false
termination_by pat.length + name.length
decreasing_by all_goals simp only [List.length_cons, List.length_drop]; omega

/-- Whether a component holds a wildcard. -/
def isWildcard (part : String) : Bool :=
  part.contains '*' || part.contains '?' || part.contains '['

/-- Whether a component holds `**` without being it. -/
def isPartialRecursion (part : String) : Bool :=
  part != "**" && (part.splitOn "**").length > 1

namespace Workspace

/-- A directory and every directory below it, the directory first; `fuel` bounds the
depth. -/
def directoriesBelow (w : Workspace) (dir : RelPath) : Nat → List RelPath
  | 0 => [dir]
  | fuel + 1 =>
    dir :: (w.childNames dir).flatMap fun name =>
      if w.isDir (dir ++ [name]) then w.directoriesBelow (dir ++ [name]) fuel else []

/-- Add paths to a list, each once. -/
def addNew (seen : List RelPath) (ps : List RelPath) : List RelPath :=
  ps.foldl (fun acc p => if acc.contains p then acc else acc ++ [p]) seen

/-- The paths that the pattern components `parts` select from a directory. An empty
component (from a final `/`) selects the directory itself. -/
def select (w : Workspace) (dir : RelPath) : List String → List RelPath
  | [] => [dir]
  | part :: rest =>
    if part == "" then [dir]
    else
      let dirOnly := !rest.isEmpty
      if part == "**" then
        (w.directoriesBelow dir (w.entries.length + 1)).foldl
          (fun acc d => addNew acc (w.select d rest)) []
      else if isWildcard part then
        (w.childNames dir).flatMap fun name =>
          let child := dir ++ [name]
          if (dirOnly && !w.isDir child) || !nameMatches part.toList name.toList then []
          else w.select child rest
      else
        let child := dir ++ [part]
        if (if dirOnly then w.isDir child else w.hasEntry child) then w.select child rest else []

/-- The entries a pattern matches below a directory (none when it is no directory). -/
def glob (w : Workspace) (root : RelPath) (pattern : String) : Except PatternError (List RelPath) :=
  if pattern.isEmpty then .error (.empty pattern)
  else
    let parts := RelPath.parse pattern ++ (if pattern.endsWith "/" then [""] else [])
    if parts.isEmpty then .error .noComponent
    else if parts == [""] then .error .bareDirectory
    else if parts.any isPartialRecursion then .error .partialRecursion
    else if !w.isDir root then .ok []
    else .ok (w.select root parts)

/-- Sort paths component-wise. -/
def sortPaths (ps : List RelPath) : List RelPath := ps.mergeSort fun a b => !RelPath.lt b a

/-- The files that a list of patterns names below a directory, each once, in component-wise
order: a pattern naming a file gives that file, a pattern outside the workspace (starting
with `/`) gives nothing, and any other is matched below the directory. -/
def discover (w : Workspace) (root : RelPath) (patterns : List String) :
    Except PatternError (List RelPath) := do
  let step (acc : List RelPath) (pattern : String) : Except PatternError (List RelPath) := do
    let direct := root ++ RelPath.parse pattern
    if w.isFile direct then pure (addNew acc [direct])
    else if pattern.startsWith "/" then pure acc
    else
      let matched ← w.glob root pattern
      pure (addNew acc (matched.filter w.isFile))
  let found ← patterns.foldlM step []
  pure (sortPaths found)

end Workspace

end PineCheck
