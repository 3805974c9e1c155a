import ILGraft.Config
import ILGraft.Injection
import ILGraft.Machine
import ILGraft.Text.Upper

/-!
# The toolchain

A disassembler, an assembler and a verifier work on modules. Each is taken from the
configuration, from the directory of the development kit, or from the programs that can be found
by name, in this order.
-/

namespace ILGraft

/-- What a tool is started for. -/
inductive Activity
  | disassembly
  | assembly
  | verification
deriving Repr, DecidableEq

/-- The word for an activity. -/
def Activity.word : Activity → String
  | .disassembly => "disassembly"
  | .assembly => "assembly"
  | .verification => "verification"

/-- Why a tool did not do its work. -/
inductive ToolFailure
  /-- There is no tool for the activity. -/
  | noTool (activity : Activity)
  /-- The program of the tool does not exist. -/
  | notFound (activity : Activity) (program : String)
  /-- The tool ran for too long. -/
  | timedOut (activity : Activity)
  /-- The tool reported a failure by its exit code. -/
  | failed (activity : Activity) (code : Int) (details : String)
deriving Repr, BEq

namespace ToolFailure

/-- The wording of a failure. -/
def message : ToolFailure → String
  | .noTool .disassembly => "no ildasm found (set toolchain.sdk_dir or FrameworkSDKDir)"
  | .noTool .assembly => "no ilasm found (set toolchain.ilasm or add it to PATH)"
  | .noTool .verification => "no peverify found (set toolchain.peverify or toolchain.sdk_dir)"
  | .notFound activity program => activity.word ++ ": '" ++ program ++ "' not found"
  | .timedOut activity => activity.word ++ " timed out"
  | .failed activity code _ =>
    activity.word ++ " failed (exit " ++ Text.numeral code ++ ")"

/-- What the tool itself said. -/
def details : ToolFailure → String
  | .failed _ _ details => details
  | _ => ""

/-- The wording of a failure, followed by what the tool said. -/
def describe (failure : ToolFailure) : String :=
  if failure.details = "" then failure.message
  else failure.message ++ "\n" ++ failure.details

end ToolFailure

/-- The cause that a value which cannot be written comes to. -/
def Abort.ofUnwritable : Toml.Value.Unwritable → Abort
  | .longNumeral fault => .longNumeral fault
  | .tooDeep => .tooDeep

/-- The tools that were found. -/
structure Toolchain where
  /-- The disassembler. -/
  disassembler? : Option Toml.Value
  /-- The assembler. -/
  assembler? : Option Toml.Value
  /-- The verifier. -/
  verifier? : Option Toml.Value
  /-- The time limit of each process. -/
  timeout : Toml.Value
deriving Repr, BEq

namespace Toolchain

/-- The names of disassemblers. -/
def disassemblerNames : List String := ["ildasm", "ildasm.exe"]

/-- The names of assemblers. -/
def assemblerNames : List String := ["ilasm", "ilasm.exe"]

/-- The names of verifiers. -/
def verifierNames : List String := ["peverify", "PEVerify.exe"]

/-- The directory of tools that the environment names. -/
def sdkDirectory? (machine : Machine) : Option Path :=
  match machine.sdkVariable? with
  | none => none
  | some directory => if directory = "" then none else some ((Path.ofString directory).child "Bin")

/-- The first of some names that is a file in a directory. -/
def findInDirectory (files : FileTree) (directory : Path) :
    List String → Except FileError (Option String)
  | [] => .ok none
  | name :: rest => do
    if ← files.isFile (directory.child name) then return some (directory.child name).toString
    findInDirectory files directory rest

/-- The path of the first of some names that can be found as a program. -/
def findByName? (programs : List (String × String)) (names : List String) : Option String :=
  names.findSome? fun name => (programs.lookup name).filter (· ≠ "")

/-- Looks for a tool in a directory, if there is one, and then by name. -/
def findTool (machine : Machine) (directory? : Option Path) (names : List String) :
    Except FileError (Option String) := do
  let inDirectory ← match directory? with
    | some directory => findInDirectory machine.files directory names
    | none => pure none
  return inDirectory <|> findByName? machine.programs names

/-- The tool that is configured, or else the one that is found. -/
def resolve (machine : Machine) (directory? : Option Path) (configured : Toml.Value)
    (names : List String) : Except Abort (Option Toml.Value) :=
  if configured.isSet then .ok (some configured)
  else
    match findTool machine directory? names with
    | .ok found? => .ok (found?.map .text)
    | .error error => .error (.text (.file error))

/-- The directory of tools: the configured one, or else the one of the environment. -/
def toolDirectory (machine : Machine) (configured : Toml.Value) : Except Abort (Option Path) :=
  if configured.isSet then
    match configured.text? with
    | some directory => .ok (some (Path.ofString directory))
    | none => .error .notPath
  else .ok (sdkDirectory? machine)

/-- Finds the tools of a configuration on a machine. -/
def find (machine : Machine) (settings : ToolSettings) : Except Abort Toolchain := do
  let directory? ← toolDirectory machine settings.sdkDirectory
  let disassembler? ← resolve machine directory? settings.disassembler disassemblerNames
  let assembler? ← resolve machine directory? settings.assembler assemblerNames
  let verifier? ← resolve machine directory? settings.verifier verifierNames
  return { disassembler?, assembler?, verifier?, timeout := settings.timeout }

/-- Runs a tool. What it said is taken from its error stream, or else from its output. -/
def run [Host] (activity : Activity) (command : Command) (timeout : Toml.Value)
    (machine : Machine) : Except Abort (Except ToolFailure Unit) × Machine :=
  match machine.start command timeout with
  | (.error error, machine) => (.error (.text (.file error)), machine)
  | (.ok .notFound, machine) =>
    match command.program.display with
    | .ok program => (.ok (.error (.notFound activity program)), machine)
    | .error fault => (.error (.ofUnwritable fault), machine)
  | (.ok .timedOut, machine) => (.ok (.error (.timedOut activity)), machine)
  | (.ok (.exited code output errors _), machine) =>
    if code = 0 then (.ok (.ok ()), machine)
    else (.ok (.error (.failed activity code (if errors = "" then output else errors))), machine)

/-- The command that disassembles a module with its line numbers. -/
def disassembleCommand (program : Toml.Value) (module output : Path) : Command where
  program := program
  arguments :=
    [module.toString, "/linenum", "/text", "/nobar", "/out=" ++ output.toString]

/-- The argument that names the key of a module, if there is one. -/
def keyArguments [Host] (keyFile : Toml.Value) : Except Toml.Value.Unwritable (List String) :=
  if keyFile.isSet then (fun name => ["/key=" ++ name]) <$> keyFile.display else .ok []

/-- The command that assembles code. Debug information is asked for without restriction, so that
debuggers follow the markers. -/
def assembleCommand [Host] (program : Toml.Value) (code output : Path)
    (settings : AssemblySettings) : Except Toml.Value.Unwritable Command := do
  let key ← keyArguments settings.keyFile
  return {
    program
    arguments :=
      [code.toString, "/output=" ++ output.toString]
        ++ (if settings.optimize.isSet then ["/optimize"] else [])
        ++ (if settings.debug.isSet then ["/debug"] else [])
        ++ ["/" ++ String.ofList (Text.upper settings.outputType.toList)]
        ++ key ++ ["/nologo", "/quiet"] }

/-- The command that verifies a module. -/
def verifyCommand (program : Toml.Value) (module : Path) : Command where
  program := program
  arguments := [module.toString]

/-- Runs a tool if there is one and its command can be written. -/
def runIfFound [Host] (activity : Activity) (tool? : Option Toml.Value)
    (command : Toml.Value → Except Toml.Value.Unwritable Command) (timeout : Toml.Value)
    (machine : Machine) : Except Abort (Except ToolFailure Unit) × Machine :=
  match tool?.map command with
  | some (.ok command) => run activity command timeout machine
  | some (.error fault) => (.error (.ofUnwritable fault), machine)
  | none => (.ok (.error (.noTool activity)), machine)

/-- Disassembles a module into a file. -/
def disassemble [Host] (tools : Toolchain) (module output : Path) (machine : Machine) :
    Except Abort (Except ToolFailure Unit) × Machine :=
  runIfFound .disassembly tools.disassembler?
    (fun tool => .ok (disassembleCommand tool module output)) tools.timeout machine

/-- Assembles code into a module. -/
def assemble [Host] (tools : Toolchain) (code output : Path) (settings : AssemblySettings)
    (machine : Machine) : Except Abort (Except ToolFailure Unit) × Machine :=
  runIfFound .assembly tools.assembler?
    (fun tool => assembleCommand tool code output settings) tools.timeout machine

/-- Verifies a module. -/
def verify [Host] (tools : Toolchain) (module : Path) (machine : Machine) :
    Except Abort (Except ToolFailure Unit) × Machine :=
  runIfFound .verification tools.verifier? (fun tool => .ok (verifyCommand tool module))
    tools.timeout machine

end Toolchain

end ILGraft
