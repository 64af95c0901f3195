import Stencil.Command.Run

/-! # The program

Reads the files that a command line names, runs it, and carries out what it does.
-/

namespace Stencil.Command

/-- The text of a file, if it can be read. -/
def readFile? (path : String) : IO (Option String) :=
  try
    some <$> IO.FS.readFile path
  catch _ => pure none

/-- The files that a command line may read. -/
def inputPaths (arguments : Arguments) : List String :=
  let data := match arguments.action with
    | .render (some path) _ => [path]
    | _ => []
  arguments.config.getD defaultConfig :: arguments.template :: data

/-- Whether there is something at a path, be it readable or not. -/
def isPresent (path : String) : IO Bool :=
  try
    discard (IO.FS.realPath path)
    pure true
  catch _ => pure false

/-- A view of the files that a command line may read, as they are now. -/
def currentDisk (arguments : Arguments) : IO Disk := do
  let present ← (inputPaths arguments).filterM isPresent
  let found ← (inputPaths arguments).mapM fun path => do pure (path, ← readFile? path)
  pure
    { present := present.contains
      read? := fun path => (found.lookup path).bind id
      canWrite := fun _ => true }

/-- The environment variable that sets the log filter of a command. -/
def logVariable : String := "RUST_LOG"

/-- Carries out the steps of a command in order, up to a file that cannot be written, which is how
the command fails then. -/
def perform : List Step → IO (Option Failure)
  | [] => pure none
  | .log note :: rest => do
    IO.eprintln (note.severity.label ++ " " ++ note.target ++ ": " ++ note.message)
    perform rest
  | .print content :: rest => do
    IO.print content
    perform rest
  | .write path content :: rest => do
    let done ← try
      IO.FS.writeFile path content
      pure true
    catch _ => pure false
    if done then perform rest else pure (some (.notWritten path))

/-- Carries out what a command does, and gives the exit code. -/
def finish (outcome : Outcome) : IO UInt32 := do
  let failure? := (← perform outcome.steps).or outcome.failure?
  if let some failure := failure? then
    IO.eprintln ("Error: " ++ failure.headline)
  pure { outcome with failure? }.exitCode

end Stencil.Command

open Stencil.Command in
/-- Runs a command line. A line that is not understood has the exit code two. -/
def main (arguments : List String) : IO UInt32 := do
  match Arguments.parse? arguments with
  | none =>
    IO.eprintln "Usage: tplstr (render | check) [OPTIONS] <TEMPLATE>"
    pure 2
  | some arguments =>
    let disk ← currentDisk arguments
    finish (run ⟨disk, ← IO.getEnv logVariable⟩ arguments)
