import HostProbe.Cli.Run

/-! # The program

The arguments are carried out with the files and variables of the machine on which we run. No
program can be started from here, so what needs a node ends with the word that its shell or client
is not found. -/

namespace HostProbe.Cli

def bareLauncher : Launcher Unit where
  finds _ _ := false
  start _ s := (.absent, s)

def readAt (path : String) : IO (Option FileContent) := do
  try
    let content ← IO.FS.readBinFile path
    return some (.bytes content.toList)
  catch
    | .noFileOrDirectory .. => return none
    | e => return some (.refused e.toString)

def settingVariables : List String :=
  ["VMCHECK_EXEC_TIMEOUT_SECS", "VMCHECK_POLL_INTERVAL_MS", "VMCHECK_POLL_TIMEOUT_SECS",
    "VMCHECK_CRASHKERNEL", "VMCHECK_DUMP_PATH", "VMCHECK_SSH_PORT"]

def surroundings (named : Option String) : IO (Surroundings Unit) := do
  let home := (← IO.getEnv "HOME").getD "/"
  let userConfig := home ++ "/.vmcheck/config.yaml"
  let paths := userConfig :: named.toList
  let files ← paths.mapM fun path => do return (path, ← readAt path)
  let given ← settingVariables.filterMapM fun name => do
    return (← IO.getEnv name).map fun value => (name, value.toUTF8.toList)
  return {
    launcher := bareLauncher
    userConfig
    fileAt := fun path => (files.lookup path).join
    environment := fun name => given.lookup name }

end HostProbe.Cli

open HostProbe.Cli in
def main (args : List String) : IO UInt32 := do
  let named := match CommandLine.read args with
    | .ok c => c.config
    | .error _ => none
  let (ending, screen, ()) := run (← surroundings named) args ()
  IO.print screen.out
  IO.eprint screen.err
  match ending with
  | .done => pure ()
  | .failed f => IO.eprintln ("Error: " ++ f.text)
  | .stopped .usage => IO.eprintln usage
  | .stopped .help => IO.println usage
  | .stopped (.version _) => pure ()
  return UInt32.ofNat ending.exitCode
