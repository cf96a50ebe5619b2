/-!
# Relative paths

A path inside the workspace is the list of its components. Reading a path text drops empty
components and `.` (so `./a.pine` and `sub//c.pine` name `a.pine` and `sub/c.pine`) and
keeps `..`, which only the file tree resolves. Paths are ordered component by component.

A path text that starts with `/` names a place outside the workspace. It reads as a path
whose first component is `/`, which no entry of the workspace has, and is written back with
its leading `/`.
-/

namespace PineCheck

/-- A path relative to the workspace root, as its components. -/
abbrev RelPath := List String

namespace RelPath

/-- The path a text names. -/
def parse (s : String) : RelPath :=
  let parts := (s.splitOn "/").filter fun part => part != "" && part != "."
  if s.startsWith "/" then "/" :: parts else parts

/-- The text of a path; `.` for the root. -/
def render (p : RelPath) : String :=
  match p with
  | [] => "."
  | "/" :: rest => "/" ++ "/".intercalate rest
  | _ => "/".intercalate p

/-- The last component, empty for the root. -/
def name (p : RelPath) : String := p.getLast?.getD ""

/-- The extension of the last component: from its last dot, when that dot is neither the
first nor the last character. -/
def suffix (p : RelPath) : String :=
  let cs := p.name.toList
  match (cs.zipIdx.filter (·.1 == '.')).getLast? with
  | some (_, i) => if 0 < i && i + 1 < cs.length then String.ofList (cs.drop i) else ""
  | none => ""

/-- Component-wise order of paths. -/
def lt : RelPath → RelPath → Bool
  | [], [] => false
  | [], _ :: _ => true
  | _ :: _, [] => false
  | a :: as, b :: bs => if a == b then lt as bs else decide (a < b)

end RelPath

end PineCheck
