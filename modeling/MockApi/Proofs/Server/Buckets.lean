import MockApi.Server.RateLimiter

/-! A rate limit taken apart by its keys: every key has a limiter of its own, and neither the checks
of other keys nor an eviction at some time tells it anything about them. -/
namespace MockApi

namespace Keyed

variable {α : Type} {name other : String}

/-- The entries of one name. -/
def only (name : String) (entries : Keyed α) : Keyed α := entries.filter fun entry => entry.1 = name

theorem find?_only (name : String) (entries : Keyed α) :
    find? name (only name entries) = find? name entries := by
  induction entries with
  | nil => rfl
  | cons entry rest ih =>
    obtain ⟨key, value⟩ := entry
    by_cases h : key = name
    · simp [only, find?, h]
    · simpa [only, find?, h] using ih

theorem only_insert_self (name : String) (value : α) (entries : Keyed α) :
    only name (insert name value entries) = insert name value (only name entries) := by
  induction entries with
  | nil => simp [only, insert]
  | cons entry rest ih =>
    obtain ⟨key, old⟩ := entry
    by_cases h : key = name
    · simp [only, insert, h]
    · simpa [only, insert, h] using ih

end Keyed

namespace RateLimiter

variable {key other : String} {now : Nat}

/-- The limiter of one key, that knows nothing of the others. -/
def only (key : String) (limiter : RateLimiter) : RateLimiter :=
  { limiter with due := Keyed.only key limiter.due }

/-- A check is decided by the limiter of its key and the time, and is noted there. -/
theorem check_only (now : Nat) (key : String) (limiter : RateLimiter) :
    (limiter.only key).check now key =
      ((limiter.check now key).1, (limiter.check now key).2.only key) := by
  have hdue : (limiter.only key).dueTime now key = limiter.dueTime now key := by
    rw [dueTime, dueTime, only, Keyed.find?_only]
  simp only [check, hdue]
  by_cases hearly : now < limiter.dueTime now key - limiter.interval * limiter.burst
  · simp [only, hearly]
  · simp [only, hearly, Keyed.only_insert_self]

end RateLimiter
end MockApi
