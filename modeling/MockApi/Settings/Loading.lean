import MockApi.CommandLine
import MockApi.Settings.DefinitionFolder
import MockApi.Settings.MainFile
import MockApi.Settings.Validation

/-!
Settings from files: the main file, the definition folders beside it, and what the command line says.
Settings are only handed out when no condition is violated.
-/
namespace MockApi

inductive LoadFault where
  /-- Some file cannot be read as what it should hold. -/
  | unreadable
  | invalid (faults : List SettingsFault)
  deriving DecidableEq, Repr

def LoadFault.message? : LoadFault → Option String
  | unreadable => none
  | invalid faults =>
      some ("Configuration validation failed:\n" ++
        "\n".intercalate (faults.map SettingsFault.message))

def Definitions.append (first second : Definitions) : Definitions :=
  ⟨first.schemas ++ second.schemas, first.endpoints ++ second.endpoints,
    first.envelopes ++ second.envelopes⟩

def Definitions.read? (files : Files) (root : String) : Option Definitions := do
  return { schemas := ← DefinitionFolder.schemas.readAll? files root
           endpoints := ← DefinitionFolder.endpoints.readAll? files root
           envelopes := ← DefinitionFolder.envelopes.readAll? files root }

namespace Settings

def read? (files : Files) (mainFile root : String) : Option Settings := do
  let settings ← MainFile.read? files mainFile
  let definitions ← Definitions.read? files root
  return { settings with definitions := settings.definitions.append definitions }

/-- What the command line says goes before what the files say. -/
def override (commandLine : CommandLine) (settings : Settings) : Settings :=
  let engine := settings.engine
  { settings with
    server :=
      { host := commandLine.host.getD settings.server.host
        port := commandLine.port.getD settings.server.port }
    engine :=
      { engine with
        limits :=
          { engine.limits with maxDepth := commandLine.maxDepth.getD engine.limits.maxDepth }
        cacheEnabled := engine.cacheEnabled && !commandLine.noCache } }

def checked (settings : Settings) : Except LoadFault Settings :=
  match settings.faults with
  | [] => .ok settings
  | faults => .error (.invalid faults)

def orUnreadable : Option Settings → Except LoadFault Settings
  | some settings => .ok settings
  | none => .error .unreadable

def ofDirectory (files : Files) (root : String) : Except LoadFault Settings := do
  (← orUnreadable (read? files (Path.join root "mockshape") root)).checked

/-- The settings that a command line asks for; the folders lie beside the main file. -/
def load (files : Files) (commandLine : CommandLine) : Except LoadFault Settings := do
  let settings ← orUnreadable
    (read? files commandLine.config (Path.directory commandLine.config))
  (settings.override commandLine).checked

def folders (mainFile : String) : List String :=
  [DefinitionFolder.schemas.path, DefinitionFolder.endpoints.path,
    DefinitionFolder.envelopes.path].map (Path.join (Path.directory mainFile))

/-- Where a change may change the settings: the main file and its folders. -/
def watchPaths (mainFile : String) : List String := mainFile :: folders mainFile

end Settings
end MockApi
