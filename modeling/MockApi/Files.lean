import MockApi.Keyed

/-!
What a reader of files can see, and what was found at some paths.
-/
namespace MockApi

structure Files where
  /-- The content of a file. -/
  read? : String → Option String
  /-- The names in a directory, the least first, each with the content if it is a file. -/
  entries : String → List (String × Option String)

structure Findings where
  contents : Keyed String
  listings : Keyed (Keyed (Option String))
  deriving DecidableEq, Repr

namespace Findings

/-- Nothing is seen at any other path. -/
def view (found : Findings) : Files :=
  { read? := fun path => Keyed.find? path found.contents
    entries := fun path => ((Keyed.find? path found.listings).map Keyed.sorted).getD [] }

end Findings
end MockApi
