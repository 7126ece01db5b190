import EdgeReveal.CommandLine
import EdgeReveal.Verbosity

/-!
# The program

Looks at the surroundings that the command line needs, lets it decide, and
prints what it reports.
-/
namespace EdgeReveal

/-- Takes a path into the files as it is found on the disk. -/
def lookAt (fs : Files) (path : String) : IO Files := do
  try
    let bytes ← IO.FS.readBinFile path
    return fs.addFile path bytes.toList
  catch
    | .inappropriateType .. => return fs.addFolder path
    | _ => return fs

/-- The paths that a run may consult. -/
def consultedPaths (home : ConfigHome) (runtime signature : Option String)
    (invocation : Invocation) : List String :=
  let explicit := match invocation with
    | .run options => options.config.toList
    | _ => []
  let folder := match runtime, signature with
    | some runtime, some signature => [Path.join (Path.join runtime "hypr") signature]
    | _, _ => []
  (Config.defaultPath home).toList ++ explicit ++ folder

def surroundings (arguments : List String) : IO Environment := do
  let current := (Path.parts (← IO.currentDir).toString).filter (· != "")
  let home : ConfigHome :=
    ⟨(← IO.getEnv "HOME").filter (!·.isEmpty), ← IO.getEnv "XDG_CONFIG_HOME"⟩
  let signature ← IO.getEnv "HYPRLAND_INSTANCE_SIGNATURE"
  let runtime ← IO.getEnv "XDG_RUNTIME_DIR"
  let paths := consultedPaths home runtime signature (Invocation.ofArguments {} arguments)
  let start : Files := { folders := [current], current := current }
  return {
    files := ← paths.foldlM lookAt start
    configHome := home
    signature := signature
    runtime := runtime }

end EdgeReveal

open EdgeReveal in
/-- A run that would go on to serve the panel needs sockets, which this program does not open. -/
def main (arguments : List String) : IO UInt32 := do
  match CommandLine.run (← surroundings arguments) arguments with
  | .finished report =>
    IO.print report.output
    match report.fault with
    | some fault => IO.eprintln fault
    | none => pure ()
    return UInt32.ofNat report.code
  | .serving _ sockets =>
    IO.eprintln s!"Error: cannot connect to {sockets.request}"
    return 1
