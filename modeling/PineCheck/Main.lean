import PineCheck.Cli
/-!
# The program

The command line works on the current directory: its files are read into a workspace, the
command runs on it, and any file or directory the command created or changed is written
back. Standard output and the console text are printed, and the exit code is returned.
The settings file named by the environment variable `PINELINT_CONFIG`, when set, takes the
place of the project's own.
-/

namespace PineCheck.Program

/-- Read the entries below a directory, by their paths relative to the top. -/
partial def readTree (top : RelPath) : IO (List (RelPath × Node)) := do
  let cwd ← IO.currentDir
  let here := top.foldl (· / ·) cwd
  let mut found : List (RelPath × Node) := []
  for entry in ← here.readDir do
    let path := top ++ [entry.fileName]
    if ← entry.path.isDir then
      found := found ++ [(path, Node.dir)] ++ (← readTree path)
    else
      let bytes ← IO.FS.readBinFile entry.path
      found := found ++ [(path, Node.file bytes.toList)]
  return found

/-- Write back what a command created or changed. -/
def writeBack (before after : Workspace) : IO Unit := do
  let cwd ← IO.currentDir
  for (path, node) in after.entries do
    if before.node? path != some node then
      let target := path.foldl (· / ·) cwd
      match node with
      | .dir => IO.FS.createDirAll target
      | .file bytes => IO.FS.writeBinFile target (ByteArray.mk bytes.toArray)

end PineCheck.Program

open PineCheck in
/-- Run one command line in the current directory. -/
def main (args : List String) : IO UInt32 := do
  let entries ← Program.readTree []
  let w : Workspace := ⟨entries⟩
  let env ← IO.getEnv "PINELINT_CONFIG"
  let (outcome, session) := Cli.run w env args
  Program.writeBack w session.workspace
  IO.print session.stdout
  let err ← IO.getStderr
  for line in session.stderr do
    err.putStrLn line
  if let some u := outcome.failure then
    err.putStrLn (u.kind ++ ": " ++ u.message)
  return outcome.exitCode.toUInt32
