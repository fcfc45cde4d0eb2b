import TokenNames.CommandLine

/-!
# The program

The outer layer of the command line: it fetches the one file that the command needs,
lets the library work out the outcome, and writes it.
-/

namespace TokenNames
namespace CommandLine

/-- The number that a system error carries.  Some calls report it negated. -/
def errorNumber (code : UInt32) : UInt32 :=
  min code (0 - code)

def faultOf (e : IO.Error) : FileFault :=
  match e with
  | .noFileOrDirectory .. => .notFound
  | .inappropriateType _ code _ =>
      match errorNumber code with
      | 20 => .notDirectory
      | 21 => .isDirectory
      | _ => .other (toString e)
  | _ => .other (toString e)

def fetch (path : String) : IO (Except FileFault String) := do
  try
    return FileSystem.decode (← IO.FS.readBinFile path)
  catch e =>
    return .error (faultOf e)

def Command.path? : Command → Option String
  | .inquire path _ => some path
  | _ => none

/-- The levels that the environment asks for.  A setting is a list of directives, each of
which ends with the name of a level. -/
def levelsOf (setting : String) : List Level :=
  let names := (setting.splitOn ",").filterMap fun directive => (directive.splitOn "=").getLast?
  if names.contains "trace" then [.debug, .trace]
  else if names.contains "debug" then [.debug]
  else []

def eventLine (event : Event) : String :=
  event.level.text ++ " " ++ event.message ++
    String.join (event.fields.map fun (name, value) => " " ++ name ++ "=" ++ value)

end CommandLine
end TokenNames

open TokenNames CommandLine in
def main (arguments : List String) : IO UInt32 := do
  let command := Command.ofArguments arguments
  let text ← match command.path? with
    | some path => fetch path
    | none => pure (.error .notFound)
  let { value := outcome, events } := command.run fun _ => text
  let levels := levelsOf ((← IO.getEnv "RUST_LOG").getD "")
  for event in events do
    if levels.contains event.level then
      IO.eprintln (eventLine event)
  IO.print outcome.stdout
  IO.eprint outcome.stderr
  return outcome.code
