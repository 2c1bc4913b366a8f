import MockApi.Keyed
import MockApi.Text.Digits

/-!
The command line. An argument is an option by its long or short name, a value, or the mark behind
which no option is read. Options that are not given are taken from the environment. A value is
looked at only when the next option comes up or the arguments end, so that an unknown argument
behind it is found first.
-/
namespace MockApi

structure CommandLine where
  config : String
  host : Option String
  port : Option Nat
  maxDepth : Option Nat
  noCache : Bool
  noWatch : Bool
  deriving DecidableEq, Repr

inductive CommandLineFault where
  | helpAsked
  | versionAsked
  | unknownArgument
  /-- No value, or an empty one, where there must be one. -/
  | emptyValue
  /-- A switch in the environment that is neither true nor false. -/
  | badSwitch
  /-- A number that is none, or out of range. -/
  | badNumber
  | givenTwice
  /-- A value for a switch. -/
  | needlessValue
  deriving DecidableEq, Repr

namespace CommandLine

/-- Options with a value. -/
inductive Parameter where
  | config | host | port | maxDepth
  deriving DecidableEq, Repr

inductive Switch where
  | noCache | noWatch
  deriving DecidableEq, Repr

inductive OptionName where
  | parameter (parameter : Parameter)
  | switch (switch : Switch)
  | help
  | version
  deriving DecidableEq, Repr

def longOptions : Keyed OptionName :=
  [("config", .parameter .config), ("host", .parameter .host), ("port", .parameter .port),
    ("max-depth", .parameter .maxDepth), ("no-cache", .switch .noCache),
    ("no-watch", .switch .noWatch), ("help", .help), ("version", .version)]

def shortOption? : Char → Option OptionName
  | 'c' => some (.parameter .config)
  | 'h' => some .help
  | 'V' => some .version
  | _ => none

structure Given where
  config : Option String
  host : Option String
  port : Option Nat
  maxDepth : Option Nat
  noCache : Option Bool
  noWatch : Option Bool
  deriving DecidableEq, Repr

namespace Given

def nothing : Given := ⟨none, none, none, none, none, none⟩

def has (given : Given) : Parameter → Bool
  | .config => given.config.isSome
  | .host => given.host.isSome
  | .port => given.port.isSome
  | .maxDepth => given.maxDepth.isSome

def hasSwitch (given : Given) : Switch → Bool
  | .noCache => given.noCache.isSome
  | .noWatch => given.noWatch.isSome

/-- A port is read as a signed number, so that zero may have any sign. -/
def port? (raw : String) : Option Nat :=
  match raw.toList with
  | '-' :: digits =>
      if digits ≠ [] ∧ digits.all Text.isDigit ∧ Text.digitsValue digits = 0 then some 0 else none
  | chars => Text.readBelow? (2 ^ 16) chars

def number : Option Nat → Except CommandLineFault Nat
  | some n => .ok n
  | none => .error .badNumber

def set (parameter : Parameter) (raw : String) (given : Given) : Except CommandLineFault Given :=
  match parameter with
  | .config => if raw = "" then .error .emptyValue else .ok { given with config := some raw }
  | .host => .ok { given with host := some raw }
  | .port => do return { given with port := some (← number (port? raw)) }
  | .maxDepth => do
      let depth ← number (Text.readBelow? (2 ^ 64) raw.toList)
      return { given with maxDepth := some depth }

/-- Takes a value of an argument over; a second one is refused before it is looked at. -/
def setOnce (parameter : Parameter) (raw : String) (given : Given) :
    Except CommandLineFault Given :=
  if given.has parameter then .error .givenTwice else given.set parameter raw

def setSwitch (switch : Switch) (value : Bool) (given : Given) : Given :=
  match switch with
  | .noCache => { given with noCache := some value }
  | .noWatch => { given with noWatch := some value }

def setSwitchOnce (switch : Switch) (given : Given) : Except CommandLineFault Given :=
  if given.hasSwitch switch then .error .givenTwice else .ok (given.setSwitch switch true)

def fill (environment : Keyed String) (given : Given) (entry : String × Parameter) :
    Except CommandLineFault Given :=
  match Keyed.find? entry.1 environment with
  | some raw => if given.has entry.2 then .ok given else given.set entry.2 raw
  | none => .ok given

def fillSwitch (environment : Keyed String) (given : Given) (entry : String × Switch) :
    Except CommandLineFault Given :=
  match Keyed.find? entry.1 environment with
  | some raw =>
      if given.hasSwitch entry.2 then .ok given
      else if raw = "true" then .ok (given.setSwitch entry.2 true)
      else if raw = "false" then .ok (given.setSwitch entry.2 false)
      else .error .badSwitch
  | none => .ok given

def parameterVariables : List (String × Parameter) :=
  [("MOCKSHAPE_CONFIG", .config), ("MOCKSHAPE_HOST", .host), ("MOCKSHAPE_PORT", .port),
    ("MOCKSHAPE_MAX_DEPTH", .maxDepth)]

def switchVariables : List (String × Switch) :=
  [("MOCKSHAPE_NO_CACHE", .noCache), ("MOCKSHAPE_NO_WATCH", .noWatch)]

def fillAll (environment : Keyed String) (given : Given) : Except CommandLineFault Given := do
  let given ← parameterVariables.foldlM (fill environment) given
  switchVariables.foldlM (fillSwitch environment) given

def finish (given : Given) : CommandLine :=
  ⟨given.config.getD "mockshape.toml", given.host, given.port, given.maxDepth,
    given.noCache.getD false, given.noWatch.getD false⟩

end Given

inductive Token where
  | long (name : String) (value : Option String)
  | short (letter : Char) (rest : List Char)
  /-- Behind this no options are read. -/
  | endMark
  | value (text : String)
  deriving DecidableEq, Repr

def Token.of (argument : String) : Token :=
  match argument.toList with
  | ['-', '-'] => .endMark
  | '-' :: '-' :: chars =>
      let name := chars.takeWhile (· ≠ '=')
      match chars.drop name.length with
      | _ :: raw => .long (String.ofList name) (some (String.ofList raw))
      | [] => .long (String.ofList name) none
  | '-' :: letter :: rest => .short letter rest
  | _ => .value argument

/-- What is given, and the parameter last named with its value once there is one. -/
structure Progress where
  given : Given
  pending : Option (Parameter × Option String)

namespace Progress

def settle (progress : Progress) : Except CommandLineFault Given :=
  match progress.pending with
  | none => .ok progress.given
  | some (_, none) => .error .emptyValue
  | some (parameter, some raw) => progress.given.setOnce parameter raw

/-- An option with the value attached to it, if there is one. -/
def take (option : OptionName) (attached : Option String) (progress : Progress) :
    Except CommandLineFault Progress :=
  match option, attached with
  | .parameter parameter, some raw => do
      return ⟨← (← progress.settle).setOnce parameter raw, none⟩
  | .parameter parameter, none => do return ⟨← progress.settle, some (parameter, none)⟩
  | _, some _ => .error .needlessValue
  | .switch switch, none => do return ⟨← (← progress.settle).setSwitchOnce switch, none⟩
  | .help, none => do
      let _ ← progress.settle
      throw .helpAsked
  | .version, none => do
      let _ ← progress.settle
      throw .versionAsked

/-- A short option takes the rest of its argument as value; an equals sign in front is dropped. -/
def takeShort (letter : Char) (rest : List Char) (progress : Progress) :
    Except CommandLineFault Progress :=
  match shortOption? letter with
  | none => .error .unknownArgument
  | some (.parameter parameter) =>
      let attached := match rest with
        | [] => none
        | '=' :: value => some (String.ofList value)
        | value => some (String.ofList value)
      progress.take (.parameter parameter) attached
  | some option => progress.take option none

def takeValue (text : String) (progress : Progress) : Except CommandLineFault Progress :=
  match progress.pending with
  | some (parameter, none) => .ok { progress with pending := some (parameter, some text) }
  | _ => .error .unknownArgument

end Progress

def readAll : List String → Progress → Except CommandLineFault Given
  | [], progress => progress.settle
  | argument :: rest, progress =>
      match Token.of argument with
      | .endMark => if rest = [] then progress.settle else .error .unknownArgument
      | .long name value =>
          match Keyed.find? name longOptions with
          | some option => progress.take option value >>= readAll rest
          | none => .error .unknownArgument
      | .short letter more => progress.takeShort letter more >>= readAll rest
      | .value text => progress.takeValue text >>= readAll rest

def read (environment : Keyed String) (arguments : List String) :
    Except CommandLineFault CommandLine := do
  let given ← readAll arguments ⟨Given.nothing, none⟩
  return (← given.fillAll environment).finish

end CommandLine
end MockApi
