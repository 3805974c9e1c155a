import ILGraft.Collection
import ILGraft.Splice

/-!
# Injection

All snippets that the sources of a document hold are collected, placed in the document as it
is, and spliced in together. A single fault leaves the document without any of them.
-/

namespace ILGraft

/-- Causes that end a run without a result. -/
inductive Abort
  /-- A line of the disassembly holds a numeral that is too long. -/
  | longNumeral (fault : Text.LongNumeral)
  /-- The name of a file holds a null character. -/
  | nullInName
  /-- A value that has to be a text is something else. -/
  | notText
  /-- A value that has to be a path is something else. -/
  | notPath
  /-- A placement lies outside the document. -/
  | outOfRange (fault : OutOfRange)
  /-- A file cannot be read or written. -/
  | text (error : TextError)
  /-- The values of a configuration are nested too deeply. -/
  | tooDeep
deriving DecidableEq

/-- The wording of a cause. -/
def Abort.message : Abort → String
  | .longNumeral fault => fault.message
  | .nullInName => FileError.nullInName.message
  | .notText => "a value that has to be a text is something else"
  | .notPath => "a value that has to be a path is something else"
  | .outOfRange fault => fault.message
  | .text (.file error) => error.message
  | .text (.encoding malformed) => malformed.message
  | .tooDeep => "values are nested too deeply"

/-- What becomes of a document. -/
inductive Injection
  /-- Every snippet has its place: the merged lines, the placements, and the warnings. -/
  | merged (lines : List String) (placements : List Placement) (warnings : List Diagnostic)
  /-- A snippet has no single place: all snippets, the warnings, and the fault. -/
  | misplaced (snippets : List Snippet) (warnings : List Diagnostic) (fault : Fault)
  /-- The snippets could not be collected. -/
  | uncollected (fault : Fault)
deriving DecidableEq

namespace Injection

/-- Whether the snippets were merged. -/
def succeeded : Injection → Bool
  | .merged .. => true
  | _ => false

/-- The merged lines. -/
def lines : Injection → List String
  | .merged lines .. => lines
  | _ => []

/-- The snippets found. -/
def snippets : Injection → List Snippet
  | .merged _ placements _ => placements.map Placement.snippet
  | .misplaced snippets .. => snippets
  | .uncollected _ => []

/-- Where the snippets were placed. -/
def placements : Injection → List Placement
  | .merged _ placements _ => placements
  | _ => []

/-- The diagnostics: warnings first, then the fault. -/
def diagnostics : Injection → List Diagnostic
  | .merged _ _ warnings => warnings
  | .misplaced _ warnings fault => warnings ++ [fault.diagnostic]
  | .uncollected fault => [fault.diagnostic]

/-- Places and merges what was collected. -/
def ofCollection (document : Document) (collection : Collection) : Except Abort Injection :=
  match Placement.locateAll document collection.snippets with
  | .error fault => .ok (.misplaced collection.snippets collection.warnings fault)
  | .ok placements =>
    match Splice.merge document.texts placements with
    | .error fault => .error (.outOfRange fault)
    | .ok lines => .ok (.merged lines placements collection.warnings)

/-- Splices given snippets into lines. Their numbers may be too long to be written: those of the
first placement outside the document in the message about it, and otherwise the line numbers of any
snippet. -/
def splice (lines : List String) (placements : List Placement) : Except Abort (List String) :=
  match Splice.merge lines placements with
  | .error fault => do
    let _ ← fault.tryMessage.mapError .longNumeral
    .error (.outOfRange fault)
  | .ok spliced => do
    placements.forM fun placement => placement.snippet.checkNumerals.mapError .longNumeral
    return spliced

/-- Injects into a document the snippets of the sources it names. -/
def run (document : Document) (read : Reader) (table : LanguageTable) :
    Except Abort Injection :=
  match Collection.ofDocument (m := Id) document table read with
  | .error (.fault fault) => .ok (.uncollected fault)
  | .error .nullInName => .error .nullInName
  | .error .markersNotText => .error .notText
  | .ok collection => ofCollection document collection

end Injection

end ILGraft
