import ModemLink.Console.Program

/-!
# The executable

Gathers the surroundings of a run from the system, and carries out what came of it.
-/

open ModemLink

/-- What is at a path of this machine. -/
def probe (path : String) : IO (Option FileNode) := do
  try
    let real ← IO.FS.realPath path
    if ← real.isDir then return some .directory
    return some (.file (← IO.FS.readBinFile real).toList)
  catch _ => return none

/-- The files and directories on the way to the given paths. -/
def gatherFiles (paths : List String) : IO FileTree := do
  let mut tree : FileTree := { current := (← IO.currentDir).toString }
  for path in paths do
    let names := path.splitOn "/"
    for n in List.range names.length do
      let place := "/".intercalate (names.take (n + 1))
      match ← probe place with
      | some (.file content) => tree := { tree with files := (place, content) :: tree.files }
      | some .directory => tree := { tree with directories := place :: tree.directories }
      | none => pure ()
  return tree

def saveFile (path text : String) : IO Unit := do
  let parents := (path.splitOn "/").dropLast
  IO.FS.createDirAll ("/".intercalate parents)
  IO.FS.writeFile path text

def printLine : OutputLine → IO Unit
  | .plain text => IO.println text
  | .log line =>
      IO.println (Text.padLeft ' ' 5 line.level.label ++ " " ++ line.target ++ ": " ++ line.message)

/-- There is no device on the bus of this machine. -/
def main (arguments : List String) : IO UInt32 := do
  let home := (← IO.getEnv "HOME").getD ""
  let named := match Invocation.ofArguments arguments with
    | .run { config := some path, .. } => [path]
    | _ => []
  let files ← gatherFiles (named ++ [defaultSettingsPath home, systemSettingsPath])
  let surroundings : Surroundings := { home, logFilter := ← IO.getEnv "RUST_LOG", files }
  let transcript := runProgram surroundings arguments
  transcript.lines.forM printLine
  match transcript.saved with
  | some (path, text) => saveFile path text
  | none => pure ()
  IO.eprint transcript.errors
  match transcript.exitCode with
  | some code => return code.toUInt32
  | none =>
      repeat IO.sleep 1000
      return 0
