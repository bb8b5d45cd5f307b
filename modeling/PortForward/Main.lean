/-
# The program

Reads the arguments, the environment and the settings files, runs and prints. It speaks to no API
server of its own accord, so every command that needs one reports that it cannot be reached.
-/
import PortForward.Cli.Run

namespace PortForward.Cli

/-- The files that the settings may come from, as far as they are there. -/
def readFiles (args : List String) : IO Files := do
  let named :=
    match Invocation.read args with
    | .ok i => i.config.toList
    | .error _ => []
  let mut known : List (String × Except String String) := []
  for path in Settings.usualFile :: named do
    try
      let content ← IO.FS.readFile path
      known := (path, .ok content) :: known
    catch
      | .noFileOrDirectory _ _ _ => pure ()
      | e => known := (path, .error (toString e)) :: known
  return .seen known

/-- The variables of the environment that matter. -/
def readEnvironment : IO Settings.Environment := do
  let mut found : Settings.Environment := []
  for name in ["KFWD_ADDRESS", "KFWD_NAMESPACE", "RUST_LOG"] do
    if let some value ← IO.getEnv name then
      found := (name, .text value) :: found
  return found

/-- Prints what a run leaves behind. -/
def display (outcome : Outcome) : IO Unit := do
  for item in outcome.written do
    match item with
    | .text s => IO.print s
    | .line l => IO.println l.text
  if let some complaint := outcome.complaint then
    IO.eprintln ("kfwd: " ++ complaint)

end PortForward.Cli

open PortForward in
/-- Runs the program. -/
def main (args : List String) : IO UInt32 := do
  let environment ← Cli.readEnvironment
  let files ← Cli.readFiles args
  let cluster : Cluster := { reachable := false }
  let outcome := Cli.run args { environment, files, cluster }
  Cli.display outcome
  return UInt32.ofNat outcome.exitCode
