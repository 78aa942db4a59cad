import DrinkMixer.CommandLine

/-!
# The program

The first argument names the tool, the others are its own. The settings are looked for in the file
that an environment variable names. No hardware is attached to this program, so it ends where a tool
would open some.
-/

namespace DrinkMixer

/-- The environment variable that names the file with the settings. -/
def settingsVariable : String := "BARMIXER_CONFIG"

/-- What is found under a path. -/
def sourceAt (path : String) : IO SettingsSource := do
  try
    return .ofBytes (← IO.FS.readBinFile path)
  catch
    | .noFileOrDirectory .. => return .absent
    | _ => return .unreadable

/-- The file that is named for the settings, if one is. -/
def namedFile : IO (Option SettingsFile) := do
  match ← IO.getEnv settingsVariable with
  | some path => return some ⟨path, ← sourceAt path⟩
  | none => return none

/-- Writes what a tool left behind, and gives its exit status. -/
def Report.publish (report : Report) : IO UInt32 := do
  IO.print report.output
  for record in report.records do
    IO.eprintln ("[" ++ record.level.name ++ "] " ++ record.text)
  IO.eprint report.errors
  return (report.status.getD 0).toUInt32

end DrinkMixer

open DrinkMixer in
/-- Runs the tool that the arguments name. -/
def main (arguments : List String) : IO UInt32 := do
  match arguments with
  | name :: rest =>
    match Tool.ofName? name with
    | some tool =>
      -- no hardware is ever opened, so no round is made that would take fuel
      (tool.report rest 0 (unequipped (← namedFile)) ()).publish
    | none =>
      IO.eprintln ("unknown tool '" ++ name ++ "'")
      return 2
  | [] =>
    IO.eprintln "usage: TOOL ARGUMENTS, with TOOL one of actuator-cycle, tag-reader, pour-order"
    return 2
