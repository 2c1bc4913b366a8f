import MockApi.Keyed

/-!
A rate limit for each key on its own. A key has a due time: the time at which its bucket is full
again. A check moves it one interval ahead, and is refused while that lies further ahead than a
full burst. Times are in nanoseconds.
-/
namespace MockApi

inductive QuotaFault where
  | noRate | noBurst
  deriving DecidableEq, Repr

def QuotaFault.message : QuotaFault → String
  | noRate => "rate_limit.requests_per_second must be greater than 0"
  | noBurst => "rate_limit.burst_size must be greater than 0"

structure RateLimiter where
  /-- The time in which one more check is earned. -/
  interval : Nat
  /-- How many checks may come at once. -/
  burst : Nat
  due : Keyed Nat

namespace RateLimiter

def second : Nat := 1000000000

def ofRate (perSecond burst : Nat) : Except QuotaFault RateLimiter :=
  if perSecond = 0 then .error .noRate
  else if burst = 0 then .error .noBurst
  else .ok ⟨second / perSecond, burst, []⟩

/-- A new key is treated as if it had just become due. -/
def dueTime (limiter : RateLimiter) (now : Nat) (key : String) : Nat :=
  (Keyed.find? key limiter.due).getD (now + limiter.interval)

/-- A check of a key; one that is refused leaves everything as it is. -/
def check (now : Nat) (key : String) (limiter : RateLimiter) : Bool × RateLimiter :=
  let due := limiter.dueTime now key
  if now < due - limiter.interval * limiter.burst then (false, limiter)
  else (true,
    { limiter with due := Keyed.insert key (max due now + limiter.interval) limiter.due })

def tracked (limiter : RateLimiter) : Nat := limiter.due.length

def evict (now : Nat) (limiter : RateLimiter) : RateLimiter :=
  { limiter with due := limiter.due.filter fun entry => now < entry.2 }

def checkAll (now : Nat) (keys : List String) (limiter : RateLimiter) :
    List (Bool × Nat) × RateLimiter :=
  keys.foldl (fun (results, limiter) key =>
    let (allowed, limiter) := limiter.check now key
    (results ++ [(allowed, limiter.tracked)], limiter)) ([], limiter)

end RateLimiter
end MockApi
