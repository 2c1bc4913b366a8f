import MockApi.Generator.Basic

/-!
Generators of dates and timestamps between two given ones.
-/
namespace MockApi.Generator

def timeParams : List ParamSpec := [⟨"from", .string, false⟩, ⟨"to", .string, false⟩]

def textOr (params : Params) (name default : String) : String :=
  ((params.find? name).bind Json.asString?).getD default

def dateParam (params : Params) (name default : String) : Attempt Date :=
  match Date.parse (textOr params name default) with
  | .ok date => return date
  | .error fault => refuse (.unreadableDate name fault)

def instantParam (params : Params) (name default : String) : Attempt Instant :=
  match Instant.parse (textOr params name default) with
  | .ok instant => return instant
  | .error fault => refuse (.unreadableTimestamp name fault)

/-- Any day from one date to another, by default from 2000 to 2030. -/
def date : Generator where
  id := "date"
  output := .date
  params := timeParams
  produce params := do
    let start ← dateParam params "from" "2000-01-01"
    let stop ← dateParam params "to" "2030-12-31"
    if stop.before start then refuse (.reversedTimes start.render stop.render)
    let offset ← ExceptT.lift (Draw.between 0 (stop.dayNumber - start.dayNumber))
    return .str (Date.ofDayNumber (start.dayNumber + offset)).render

/-- Any whole second from one instant to another, by default from 2000 to 2030. Fractions count
when the two are compared, and are dropped for the draw. -/
def dateTime : Generator where
  id := "dateTime"
  output := .date
  params := timeParams
  produce params := do
    let start ← instantParam params "from" "2000-01-01T00:00:00Z"
    let stop ← instantParam params "to" "2030-12-31T23:59:59Z"
    if stop.before start then refuse (.reversedTimes start.describe stop.describe)
    let seconds ← ExceptT.lift (Draw.between start.seconds stop.seconds)
    return .str (Instant.mk seconds 0).render

end MockApi.Generator
