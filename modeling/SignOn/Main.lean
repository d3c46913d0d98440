import SignOn.Command

/-! # The command line -/

open SignOn

/-- What is stored under a path. -/
def storedFile (path : String) : IO Jose.StoredFile := do
  try
    let bytes ← IO.FS.readBinFile path
    return .content bytes.data.toList
  catch e =>
    match e with
    | .noFileOrDirectory .. => return .absent
    | _ => return .directory

/-- The file under a path, or else in the nearest of `depth` directories around it. -/
def nearestFile (path : String) : Nat → IO Jose.StoredFile
  | 0 => storedFile path
  | depth + 1 => do
    match ← storedFile path with
    | .content bytes => return .content bytes
    | .absent | .directory => nearestFile ("../" ++ path) depth

def main : IO UInt32 := do
  let depth := (← IO.currentDir).toString.toList.count '/'
  let file (path : String) : IO Jose.StoredFile :=
    if path = Command.envFileName then nearestFile path depth else storedFile path
  let printed ← Command.run (fun name ↦ (IO.getEnv name : IO (Option String))) file
  IO.print printed.output
  for line in printed.errors do
    IO.eprintln line
  return printed.exitCode
