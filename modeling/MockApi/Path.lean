import MockApi.Text.Split

/-!
Paths in a file tree, as text: the directory above, joining, file extensions, and the parts that a
path leads through.
-/
namespace MockApi

namespace Path

def beforeSlash (body : List Char) : List Char :=
  ((body.reverse.dropWhile (· ≠ '/')).drop 1).reverse

def afterSlash (body : List Char) : List Char := (body.reverse.takeWhile (· ≠ '/')).reverse

theorem length_beforeSlash_lt {body : List Char} (h : body ≠ []) :
    (beforeSlash body).length < body.length := by
  have hd : (body.reverse.dropWhile (· ≠ '/')).length ≤ body.length := by
    simpa using (List.dropWhile_sublist (fun c => decide (c ≠ '/')) (l := body.reverse)).length_le
  have hp : 0 < body.length := List.length_pos_iff.mpr h
  simp only [beforeSlash, List.length_reverse, List.length_drop]
  omega

/-- Without the empty parts and single dots at the end. -/
def trimEnd (body : List Char) : List Char :=
  if h : body = [] then []
  else
    have := length_beforeSlash_lt h
    if afterSlash body = [] ∨ afterSlash body = ['.'] then trimEnd (beforeSlash body) else body
termination_by body.length

/-- The slash or the dot that a path starts with, and the rest. -/
def splitHead : List Char → List Char × List Char
  | '/' :: body => (['/'], body)
  | '.' :: '/' :: body => (['.'], '/' :: body)
  | ['.'] => (['.'], [])
  | body => ([], body)

/-- The path without its last part, where there is one to take away. -/
def parent? (path : String) : Option String :=
  let (head, body) := splitHead path.toList
  match trimEnd body with
  | [] => if head = ['.'] then some "" else none
  | body => some (String.ofList (head ++ trimEnd (beforeSlash body)))

def directory (file : String) : String :=
  match parent? file with
  | none | some "" => "."
  | some path => path

def join (directory path : String) : String :=
  if directory = "" ∨ directory.toList.getLast? = some '/' then directory ++ path
  else directory ++ "/" ++ path

def parts (path : String) : List String := (Text.splitAt '/' path.toList).map String.ofList

/-- The parts that lead somewhere else. -/
def steps (path : String) : List String :=
  (parts path).filter fun part => part ≠ "" && part ≠ "."

def fileName (path : String) : String := String.ofList (afterSlash path.toList)

/-- What follows the last dot of a file name; a dot in front does not count. -/
def extension? (name : String) : Option String :=
  let chars := name.toList
  let tail := (chars.reverse.takeWhile (· ≠ '.')).reverse
  if tail.length + 1 < chars.length ∧ name ≠ ".." then some (String.ofList tail) else none

end Path
end MockApi
