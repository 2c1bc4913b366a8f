import MockApi.Http.Head
import MockApi.Server.Reload
import MockApi.Server.Router

/-!
The command line: reads the settings, then answers the requests on standard input one after another.
Unless it is told not to, it looks at the files again before each request.
-/
namespace MockApi.Main

def usage : String :=
  "Usage: mockapi [--config FILE] [--host HOST] [--port PORT] [--max-depth N] [--no-cache] " ++
    "[--no-watch]"

def faultMessage : CommandLineFault → String
  | .helpAsked => usage
  | .versionAsked => Server.version
  | .unknownArgument => "unknown argument"
  | .emptyValue => "an option has no value"
  | .badSwitch => "a switch is neither true nor false"
  | .badNumber => "a number is none or out of range"
  | .givenTwice => "an option is given twice"
  | .needlessValue => "a switch takes no value"

def environment : IO (Keyed String) := do
  let names := CommandLine.Given.parameterVariables.map (·.1) ++
    CommandLine.Given.switchVariables.map (·.1)
  let found ← names.mapM fun name => do return (← IO.getEnv name).map fun value => (name, value)
  return found.filterMap id

def contentOf (path : String) : IO (Option String) := do
  try return some (← IO.FS.readFile path) catch _ => return none

def listingOf (path : String) : IO (Keyed (Option String)) := do
  try
    let entries ← ((← IO.currentDir) / path).readDir
    entries.toList.mapM fun entry => do
      return (entry.fileName, ← contentOf (Path.join path entry.fileName))
  catch _ => return []

def lookAround (commandLine : CommandLine) : IO Findings := do
  let contents ← (MainFile.candidates commandLine.config).mapM fun path => do
    return (← contentOf path).map fun content => (path, content)
  let listings ← (Settings.folders commandLine.config).mapM fun path => do
    return (path, ← listingOf path)
  return ⟨contents.filterMap id, listings⟩

/-- The lines up to an empty one; none at the end of the input. -/
def readHead (input : IO.FS.Stream) : IO (Option (List String)) := do
  let mut lines := #[]
  repeat
    let line ← input.getLine
    if line.isEmpty then return none
    let text := line.trimAsciiEnd.toString
    if text.isEmpty then break
    lines := lines.push text
  return some lines.toList

def skipBody (input : IO.FS.Stream) (length : Nat) : IO Unit := do
  let mut left := length
  while 0 < left do
    let bytes ← input.read left.toUSize
    if bytes.isEmpty then break
    left := left - bytes.size

/-- Answers requests until the input ends, or one of them gets no response. -/
def serveAll (commandLine : CommandLine) (found : Findings) (server : Server) : IO Unit := do
  let input ← IO.getStdin
  let output ← IO.getStdout
  let start ← IO.monoNanosNow
  let mut found := found
  let mut server := server
  repeat
    let some lines ← readHead input | break
    unless commandLine.noWatch do
      let now ← lookAround commandLine
      if now ≠ found then
        found := now
        server := server.attempt (Settings.load now.view commandLine)
    match Http.Request.ofLines? lines with
    | none => output.putStr (Http.Response.unreadable.text "GET")
    | some request =>
        skipBody input request.bodyLength
        let seed ← IO.rand 0 (2 ^ 64 - 1)
        let elapsed := (← IO.monoNanosNow) - start
        let (response?, next) :=
          server.serve (Source.ofSeed (UInt64.ofNat seed)) elapsed request
        server := next
        let some response := response? | break
        output.putStr (response.text request.method)
    output.flush

def run (commandLine : CommandLine) : IO UInt32 := do
  let found ← lookAround commandLine
  match Settings.load found.view commandLine with
  | .error fault =>
      IO.eprintln (fault.message?.getD "a configuration or definition file cannot be read")
      return 1
  | .ok settings =>
      match Server.start settings with
      | .error fault =>
          IO.eprintln fault.message
          return 1
      | .ok server =>
          serveAll commandLine found server
          return 0

end MockApi.Main

/-- Ends with 0 when the input ends, with 1 without acceptable settings, and with 2 when the
arguments cannot be read. -/
def main (arguments : List String) : IO UInt32 := do
  match MockApi.CommandLine.read (← MockApi.Main.environment) arguments with
  | .ok commandLine => MockApi.Main.run commandLine
  | .error fault =>
      if fault = .helpAsked ∨ fault = .versionAsked then
        IO.println (MockApi.Main.faultMessage fault)
        return 0
      else
        IO.eprintln (MockApi.Main.faultMessage fault)
        return 2
