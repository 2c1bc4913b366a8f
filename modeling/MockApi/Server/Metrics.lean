import MockApi.Cache.Basic

/-!
What a server counts: lookups in the cache by their outcome, requests that are being handled, and
handled requests by method and result. All of these numbers are doubles, so that they rise no more
where one more is rounded away. `count_add` says what one more request does to a count.
-/
namespace MockApi

abbrev RequestLabel := String × String

/-- The least number that a double cannot tell from the next one. -/
def countLimit : Nat := 2 ^ 53

def countUp (n : Nat) : Nat := min (n + 1) countLimit

abbrev Tally := List (RequestLabel × Nat)

namespace Tally

def count (label : RequestLabel) : Tally → Nat
  | [] => 0
  | (other, n) :: rest => if other = label then n else count label rest

def add (label : RequestLabel) : Tally → Tally
  | [] => [(label, 1)]
  | (other, n) :: rest =>
      if other = label then (other, countUp n) :: rest else (other, n) :: add label rest

theorem count_add (label other : RequestLabel) (tally : Tally) :
    count other (add label tally) =
      if label = other then countUp (count other tally) else count other tally := by
  induction tally with
  | nil => by_cases h : label = other <;> simp [add, count, h, countUp, countLimit]
  | cons entry rest ih =>
    obtain ⟨key, n⟩ := entry
    by_cases hk : key = label
    · subst hk
      by_cases h : key = other <;> simp [add, count, h]
    · by_cases h : key = other
      · subst h
        simp [add, count, hk, Ne.symm hk]
      · simp [add, count, hk, h, ih]

/-- The labels in order, by method first. -/
def sorted (tally : Tally) : Tally :=
  tally.mergeSort fun a b =>
    decide (a.1.1 < b.1.1) || (a.1.1 == b.1.1 && decide (a.1.2 ≤ b.1.2))

end Tally

structure Metrics where
  hits : Nat
  misses : Nat
  bypasses : Nat
  inFlight : Int
  requests : Tally
  /-- How many times were taken of the requests of each method. -/
  timed : Keyed Nat

namespace Metrics

def start : Metrics := ⟨0, 0, 0, 0, [], []⟩

def recordLookup (outcome : Outcome) (metrics : Metrics) : Metrics :=
  match outcome with
  | .hit => { metrics with hits := countUp metrics.hits }
  | .miss => { metrics with misses := countUp metrics.misses }
  | .bypass => { metrics with bypasses := countUp metrics.bypasses }

def enter (metrics : Metrics) : Metrics :=
  { metrics with inFlight := min (metrics.inFlight + 1) countLimit }

def leave (label : RequestLabel) (metrics : Metrics) : Metrics :=
  { metrics with
    inFlight := max (metrics.inFlight - 1) (-countLimit)
    requests := metrics.requests.add label
    timed :=
      Keyed.insert label.1 ((Keyed.find? label.1 metrics.timed).getD 0 + 1) metrics.timed }

/-- A group of samples under one name, each with its labels as they are written. -/
structure Family where
  name : String
  help : String
  kind : String
  samples : List (String × Int)

def labelled (name value : String) : String := name ++ "=\"" ++ value ++ "\""

def braced (labels : List String) : String := "\x7b" ++ String.intercalate "," labels ++ "\x7d"

/-- The families by name. Of the times that requests took only their number is shown. -/
def families (metrics : Metrics) : List Family :=
  let counter (name help : String) (n : Nat) : Family := ⟨name, help, "counter", [("", n)]⟩
  [counter "mockshape_cache_bypasses_total" "Resolutions performed outside the cache"
      metrics.bypasses,
    counter "mockshape_cache_hits_total" "Resolved-schema cache hits" metrics.hits,
    counter "mockshape_cache_misses_total" "Resolved-schema cache misses" metrics.misses,
    ⟨"mockshape_request_duration_seconds", "Mock request duration in seconds", "histogram",
      (Keyed.sorted metrics.timed).map fun entry =>
        ("_count" ++ braced [labelled "method" entry.1], entry.2)⟩,
    ⟨"mockshape_requests_in_flight", "Number of mock requests currently being processed", "gauge",
      [("", metrics.inFlight)]⟩,
    ⟨"mockshape_requests_total", "Total number of mock requests", "counter",
      metrics.requests.sorted.map fun entry =>
        (braced [labelled "method" entry.1.1, labelled "outcome" entry.1.2], entry.2)⟩]

def Family.render (family : Family) : String :=
  if family.samples.isEmpty then ""
  else
    let lines := family.samples.map fun sample =>
      family.name ++ sample.1 ++ " " ++ toString sample.2 ++ "\n"
    "# HELP " ++ family.name ++ " " ++ family.help ++ "\n" ++
      "# TYPE " ++ family.name ++ " " ++ family.kind ++ "\n" ++ String.join lines

def render (metrics : Metrics) : String := String.join (metrics.families.map Family.render)

end Metrics
end MockApi
