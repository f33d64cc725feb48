import LoginGate.Command
import LoginGate.Json.Writer
import LoginGate.Store.Document

/-!
# Main — the command line

Blocks or unblocks an account of a store that is kept in a file. The settings come from the process
and from a file `.env` beside it; what is logged goes to the standard error stream.
-/

namespace LoginGate.Main

/-- The names of the settings. -/
def settingNames : List String :=
  let groups := [Settings.databaseGroup, Settings.tokensGroup, Settings.securityGroup]
  ["APP_ENV", "DEBUG_LOGGING", "LOG_LEVEL"] ++ groups.map (·.name.toUpper) ++
    groups.flatMap (·.publicNames)

/-- The settings of the process. -/
def processBindings : IO (List Dotenv.Binding) := do
  let found ← settingNames.mapM fun name => do
    let value ← IO.getEnv name
    return value.map fun v => (name.toList, some v.toList)
  return found.filterMap id

/-- A file's text, empty if it cannot be read. -/
def textOf (path : String) : IO String := do
  try IO.FS.readFile path catch _ => return ""

/-- The file behind the address of a storage. -/
def storeFile (url : String) : String :=
  let scheme := "sqlite:///".toList
  if scheme.isPrefixOf url.toList then String.ofList (url.toList.drop scheme.length) else url

/-- How the command is used. -/
def usageText : String := "usage: block [-h] [--unblock] login"

/-- Carry out a command on the store in a file. -/
def runIn (config : Config) (c : Command) : IO UInt32 := do
  let file := storeFile config.database.url
  let store := ((Json.ofText (← textOf file)).toOption.bind Store.ofJson?).getD .empty
  let world := { Service.freshWorld 0 .info with store }
  let (result, world) := c.run config world
  for r in world.sink.records do
    IO.eprintln (r.level.name ++ " | " ++ r.correlation ++ " | " ++ r.message)
  match result with
  | .ok code =>
    IO.FS.writeFile file (String.ofList (Json.write .spaced world.store.toJson))
    return UInt32.ofNat code
  | .error e =>
    IO.eprintln e.name
    return 1

end LoginGate.Main

open LoginGate in
/-- The program. -/
def main (args : List String) : IO UInt32 := do
  match Command.ofArguments args with
  | .error usage =>
    IO.eprintln Main.usageText
    return UInt32.ofNat usage.exitCode
  | .ok command =>
    let process ← Main.processBindings
    let file := Dotenv.read process (← Main.textOf ".env")
    match Config.load { process, file } with
    | .ok (config, printed) =>
      IO.eprint printed
      Main.runIn config command
    | .error (.refused printed) =>
      IO.eprint printed
      return 1
    | .error _ =>
      IO.eprintln "the settings are not valid"
      return 1
