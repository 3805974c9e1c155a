import ILGraft.Toolchain

/-!
# Injecting into modules

A module is disassembled, the snippets of its sources are injected into its code, and the result
is assembled again and, if asked for, verified. The first step that fails is the last one.
-/

namespace ILGraft

/-- A module to inject into. -/
structure ModuleRequest where
  /-- The module. -/
  module : Path
  /-- Where the patched module goes. -/
  output : Path
  /-- How it is assembled. -/
  assembly : AssemblySettings
  /-- The configured languages. -/
  languages : LanguageTable
  /-- The tools. -/
  tools : Toolchain
  /-- Whether the patched module is verified. -/
  verify : Bool

/-- What becomes of a module. -/
inductive ModuleOutcome
  /-- The module was not disassembled. -/
  | undisassembled (failure : ToolFailure)
  /-- The snippets could not be injected. -/
  | stopped (injection : Injection)
  /-- The merged code was not assembled, or the module not verified. -/
  | unassembled (injection : Injection) (failure : ToolFailure)
  /-- The patched module was written. -/
  | patched (injection : Injection) (output : Path)

namespace ModuleOutcome

/-- Whether the patched module was written, and verified if asked for. -/
def succeeded : ModuleOutcome → Bool
  | .patched .. => true
  | _ => false

/-- What became of the code, if the module was disassembled. -/
def injection? : ModuleOutcome → Option Injection
  | .undisassembled _ => none
  | .stopped injection => some injection
  | .unassembled injection _ => some injection
  | .patched injection _ => some injection

/-- The merged lines. -/
def lines (outcome : ModuleOutcome) : List String :=
  (outcome.injection?.map Injection.lines).getD []

/-- The snippets found. -/
def snippets (outcome : ModuleOutcome) : List Snippet :=
  (outcome.injection?.map Injection.snippets).getD []

/-- Where the snippets were placed. -/
def placements (outcome : ModuleOutcome) : List Placement :=
  (outcome.injection?.map Injection.placements).getD []

/-- The diagnostics. -/
def diagnostics (outcome : ModuleOutcome) : List Diagnostic :=
  (outcome.injection?.map Injection.diagnostics).getD []

/-- The patched module. -/
def output? : ModuleOutcome → Option Path
  | .patched _ output => some output
  | _ => none

/-- The failure of a tool. -/
def toolFailure? : ModuleOutcome → Option ToolFailure
  | .undisassembled failure => some failure
  | .unassembled _ failure => some failure
  | _ => none

end ModuleOutcome

namespace ModuleRequest

/-- Reads the document in a file. -/
def readDocument (files : FileTree) (path : Path) : Except Abort Document := do
  let text ← (files.readText path).mapError .text
  (Document.ofText text).mapError .longNumeral

/-- Verifies the patched module if that is asked for. -/
def verifyPatched [Host] (request : ModuleRequest) (injection : Injection) (machine : Machine) :
    Except Abort ModuleOutcome × Machine :=
  if request.verify then
    match request.tools.verify request.output machine with
    | (.error abort, machine) => (.error abort, machine)
    | (.ok (.error failure), machine) => (.ok (.unassembled injection failure), machine)
    | (.ok (.ok ()), machine) => (.ok (.patched injection request.output), machine)
  else (.ok (.patched injection request.output), machine)

/-- Writes merged code to a temporary file, assembles it, and verifies the result. -/
def assembleMerged [Host] (request : ModuleRequest) (injection : Injection) (machine : Machine) :
    Except Abort ModuleOutcome × Machine :=
  let merged := machine.scratchFile Machine.mergedName
  let bytes := Text.Utf8.encode (Document.render injection.lines).toList
  match machine.files.write merged bytes with
  | .error error => (.error (.text (.file error)), machine)
  | .ok files =>
    match request.tools.assemble merged request.output request.assembly
        { machine with files } with
    | (.error abort, machine) => (.error abort, machine)
    | (.ok (.error failure), machine) => (.ok (.unassembled injection failure), machine)
    | (.ok (.ok ()), machine) => request.verifyPatched injection machine

/-- Carries a request out on a machine that has a directory for temporary files. -/
def runWithScratch [Host] (request : ModuleRequest) (machine : Machine) :
    Except Abort ModuleOutcome × Machine :=
  let disassembled := machine.scratchFile "original.il"
  match request.tools.disassemble request.module disassembled machine with
  | (.error abort, machine) => (.error abort, machine)
  | (.ok (.error failure), machine) => (.ok (.undisassembled failure), machine)
  | (.ok (.ok ()), machine) =>
    let injected := do
      let document ← readDocument machine.files disassembled
      Injection.run document (Source.reader machine.files) request.languages
    match injected with
    | .error abort => (.error abort, machine)
    | .ok injection =>
      if injection.succeeded then request.assembleMerged injection machine
      else (.ok (.stopped injection), machine)

/-- Carries a request out. -/
def run [Host] (request : ModuleRequest) (machine : Machine) :
    Except Abort ModuleOutcome × Machine :=
  machine.withScratch request.runWithScratch

end ModuleRequest

end ILGraft
