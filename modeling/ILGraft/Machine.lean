import ILGraft.FileTree
import ILGraft.Toml.Value

/-!
# Machines

A machine is what a run acts on: its files, the programs that can be found on it, and the
processes it starts. How each process ends is written down beforehand, so a run is a function of
the machine, and the processes it started can be looked up afterwards.
-/

namespace ILGraft

/-- A command to start a process. -/
structure Command where
  /-- The program, as the configuration names it. -/
  program : Toml.Value
  /-- The arguments. -/
  arguments : List String
deriving Repr, BEq

/-- What follows an option in the argument that gives it a value. -/
def valueOfOption? (option argument : String) : Option String :=
  (option.toList.isPrefixOf? argument.toList).map String.ofList

/-- The file that a command is told to write. -/
def Command.target? (command : Command) : Option String :=
  command.arguments.findSome? fun argument =>
    valueOfOption? "/out=" argument <|> valueOfOption? "/output=" argument

/-- How a process ends. Two ways that systems know are left out: a program that exists and cannot
be started all the same, and a process that has written something other than text on its
streams. -/
inductive Ending
  /-- It exits with a code and has written two streams, and perhaps its target file. -/
  | exited (code : Int) (output errors : String) (written? : Option (List UInt8))
  /-- Its program does not exist. -/
  | notFound
  /-- It runs for too long. -/
  | timedOut
deriving Repr, DecidableEq

/-- A process that was started. -/
structure Run where
  /-- Its command. -/
  command : Command
  /-- Its time limit. -/
  timeout : Toml.Value
  /-- The text of its first argument, if that is a file of merged code. -/
  merged? : Option String
deriving Repr, BEq

/-- What a run acts on. -/
structure Machine where
  /-- The files. -/
  files : FileTree
  /-- The programs that can be found by name, with their paths. -/
  programs : List (String × String) := []
  /-- The variable that names the directory of the development kit. -/
  sdkVariable? : Option String := none
  /-- How the processes end, in the order in which they are started. -/
  script : List Ending := []
  /-- The processes started so far. -/
  runs : List Run := []
  /-- The place for temporary files. -/
  scratch : Location
  /-- Temporary files lie in a directory of their own, below the top. -/
  scratch_ne_nil : scratch ≠ [] := by simp
  /-- The names of that directory and of those above it can stand in a path. -/
  scratch_names : ∀ part ∈ scratch, Path.IsName part := by decide

namespace Machine

/-- The name of the file of merged code. -/
def mergedName : String := "merged.il"

/-- The merged code that a command works on, every character of it as it stands in the file. -/
def mergedInput? (files : FileTree) (command : Command) : Option String :=
  match command.arguments.head? with
  | none => none
  | some argument =>
    if mergedName.toList.isSuffixOf argument.toList then
      match files.readBytes (Path.ofString argument) with
      | .ok bytes => (Text.Utf8.decode bytes).toOption.map String.ofList
      | .error _ => none
    else none

/-- The files after a process has written its target, in a directory that it makes if need be. -/
def afterWriting (files : FileTree) (command : Command) (written? : Option (List UInt8)) :
    Except FileError FileTree :=
  match written?, command.target? with
  | some bytes, some target => files.install (Path.ofString target) bytes
  | _, _ => .ok files

/-- Starts a process and waits for its end. A process for which nothing is written down exits
with code zero. -/
def start (machine : Machine) (command : Command) (timeout : Toml.Value) :
    Except FileError Ending × Machine :=
  let run : Run := ⟨command, timeout, mergedInput? machine.files command⟩
  let ending := machine.script.headD (.exited 0 "" "" none)
  let machine := { machine with script := machine.script.tail, runs := machine.runs ++ [run] }
  match ending with
  | .exited code output errors written? =>
    match afterWriting machine.files command written? with
    | .ok files => (.ok (.exited code output errors written?), { machine with files })
    | .error error => (.error error, machine)
  | other => (.ok other, machine)

/-- The place of a temporary file. -/
def scratchFile (machine : Machine) (name : String) : Path :=
  ⟨.top, machine.scratch ++ [name]⟩

/-- Acts with a directory for temporary files, which is gone afterwards in any case. -/
def withScratch {α : Type} (machine : Machine) (act : Machine → α × Machine) : α × Machine :=
  let (result, machine) :=
    act { machine with files := machine.files.add machine.scratch .directory }
  (result, { machine with files := machine.files.remove machine.scratch })

/-- How many directories for temporary files there are. -/
def scratchCount (machine : Machine) : Nat :=
  if (machine.files.entry? machine.scratch).isSome then 1 else 0

end Machine

end ILGraft
