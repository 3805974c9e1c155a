import ILGraft.CommandLine.Listing
import ILGraft.CommandLine.Request
import ILGraft.ModuleInjection

/-!
# Commands

Each command is a function of a machine: it says something, ends in some way, and leaves the
machine in some state. A configuration that cannot be used ends every command.
-/

namespace ILGraft.CommandLine

/-- How a command ends. -/
inductive Exit
  /-- The command did its work. -/
  | success
  /-- The command reported a failure. -/
  | failure
  /-- The command line asks for nothing. -/
  | usage
  /-- The command ended without a report. -/
  | aborted (abort : Abort)
deriving DecidableEq

/-- The code of an end. -/
def Exit.code : Exit → Nat
  | .success => 0
  | .failure => 1
  | .usage => 2
  | .aborted _ => 1

/-- What a command said and how it ended. -/
structure Spoken where
  /-- What was said. -/
  transcript : List Echo
  /-- How the command ended. -/
  exit : Exit

/-- A command that has ended. -/
structure Ended extends Spoken where
  /-- What the machine is like afterwards. -/
  machine : Machine

/-- More said in front of what a command said. -/
def Spoken.after (earlier : List Echo) (spoken : Spoken) : Spoken :=
  { spoken with transcript := earlier ++ spoken.transcript }

/-- The configuration file that is named, or else the nearest one. -/
def loadConfig [Host] (files : FileTree) (config? : Option String) : Except ConfigError Config :=
  match config? with
  | none => Config.loadNearest files ⟨.working, []⟩
  | some name =>
    if name = "" then Config.loadNearest files ⟨.working, []⟩
    else Config.load files (Path.ofString name)

/-- The end of a command whose configuration cannot be used. Grammar, encoding, missing keys and
unknown kinds of module are reported; a file that cannot be read, values of the wrong type and
values nested too deeply are not. -/
def configFailure (error : ConfigError) : Spoken :=
  match error with
  | .wrongType => ⟨[], .aborted .notText⟩
  | .grammar .tooDeep => ⟨[], .aborted .tooDeep⟩
  | .file .nullInName => ⟨[say .errors ("error: invalid config: " ++ error.message)], .failure⟩
  | .file fault => ⟨[], .aborted (.text (.file fault))⟩
  | _ => ⟨[say .errors ("error: invalid config: " ++ error.message)], .failure⟩

/-! ## Merging disassembled code -/

/-- Hands merged code over: into a file if one is named, or else to the stream of results. -/
def deliver (files : FileTree) (output? : Option String) (lines : List String) (count : Nat) :
    Spoken × FileTree :=
  let text := Document.render lines
  let print : Spoken × FileTree := (⟨[⟨.output, text⟩], .success⟩, files)
  match output? with
  | none => print
  | some output =>
    if output = "" then print
    else match files.write (Path.ofString output) (Text.Utf8.encode text.toList) with
      | .error error => (⟨[], .aborted (.text (.file error))⟩, files)
      | .ok files =>
        (⟨[say .output ("merged " ++ Text.numeral count ++ " snippet(s) -> " ++ output)],
          .success⟩, files)

/-- Reports an injection and hands its merged code over. -/
def finishMerge [Host] (files : FileTree) (request : MergeRequest) (injection : Injection) :
    Spoken × FileTree :=
  let stream := if request.output?.isNone then .errors else .output
  let found :=
    if request.verbose then showFound stream injection.snippets injection.placements else []
  let said := found ++ showDiagnostics files injection.diagnostics
  if injection.succeeded then
    let (spoken, files) :=
      deliver files request.output? injection.lines injection.placements.length
    (spoken.after said, files)
  else (⟨said, .failure⟩, files)

/-- Injects snippets into a file of disassembled code. -/
def merge [Host] (files : FileTree) (request : MergeRequest) : Spoken × FileTree :=
  match loadConfig files request.config? with
  | .error error => (configFailure error, files)
  | .ok config =>
    match files.readText (Path.ofString request.input) with
    | .error (.file error) => (⟨[], .aborted (.text (.file error))⟩, files)
    | .error (.encoding malformed) =>
      let complaint := "error: can't read '" ++ request.input ++ "': not valid UTF-8 ("
        ++ malformed.flaw.reason ++ ")"
      (⟨[say .errors complaint], .failure⟩, files)
    | .ok text =>
      match Document.ofText text with
      | .error fault => (⟨[], .aborted (.longNumeral fault)⟩, files)
      | .ok document =>
        match Injection.run document (Source.reader files) config.languageTable with
        | .error abort => (⟨[], .aborted abort⟩, files)
        | .ok injection => finishMerge files request injection

/-! ## Listing snippets -/

/-- How the listing of one source file went. -/
inductive Listed
  /-- The snippets were listed. -/
  | listed
  /-- A fault was reported. -/
  | faulty
  /-- The command cannot go on. -/
  | stuck (abort : Abort)
deriving DecidableEq

/-- What is said of one snippet of a source file. -/
def listSnippet [Host] (verbose : Bool) (snippet : Snippet) : List Echo :=
  if verbose then showSnippet .output snippet none
  else [say .output (snippet.file ++ ":" ++ Text.numeral snippet.first ++ "-"
    ++ Text.numeral snippet.last)]

/-- What is said when the language of a source file is a guess. -/
def guessWarning (table : LanguageTable) (source : String) : List Echo :=
  match table.choose source with
  | .unknown =>
    [say .errors ("warning: can't identify language for '" ++ source ++ "', using C#")]
  | _ => []

/-- Lists the snippets of one source file, with a cache of the lines that diagnostics quote. -/
def listSource [Host] (files : FileTree) (table : LanguageTable) (verbose : Bool)
    (cache : LineCache) (source : String) : List Echo × Listed × LineCache :=
  let warning := guessWarning table source
  match Collection.ofAnswer table source (Source.reader files source) with
  | .ok collection =>
    (warning ++ collection.snippets.flatMap (listSnippet verbose), .listed, cache)
  | .error (.fault fault) =>
    let (text, cache) := Renderer.render files complaintPalette cache fault.diagnostic
    (warning ++ [say .errors text], .faulty, cache)
  | .error .nullInName => (warning, .stuck .nullInName, cache)
  | .error .markersNotText => (warning, .stuck .notText, cache)

/-- Lists source files one after the other. A fault does not keep the files behind it from being
listed. -/
def listSources [Host] (files : FileTree) (table : LanguageTable) (verbose : Bool) :
    LineCache → List String → Spoken
  | _, [] => ⟨[], .success⟩
  | cache, source :: rest =>
    match listSource files table verbose cache source with
    | (said, .listed, cache) => (listSources files table verbose cache rest).after said
    | (said, .faulty, cache) =>
      let spoken := (listSources files table verbose cache rest).after said
      match spoken.exit with
      | .success => { spoken with exit := .failure }
      | _ => spoken
    | (said, .stuck abort, _) => ⟨said, .aborted abort⟩

/-- Lists the snippets of source files. -/
def snippets [Host] (files : FileTree) (request : SnippetsRequest) : Spoken :=
  match loadConfig files request.config? with
  | .error error => configFailure error
  | .ok config =>
    listSources files config.languageTable request.verbose [] request.sources

/-! ## Patching modules -/

/-- The assembly settings of a configuration, with what the command line says instead. -/
def assemblyFor (request : InjectRequest) (settings : AssemblySettings) : AssemblySettings :=
  let settings :=
    match request.outputType? with
    | some outputType => { settings with outputType }
    | none => settings
  match request.keyFile? with
  | some keyFile => if keyFile = "" then settings else { settings with keyFile := .text keyFile }
  | none => settings

/-- What is said of a module that was dealt with. -/
def reportModule [Host] (files : FileTree) (request : InjectRequest) (outcome : ModuleOutcome) :
    List Echo :=
  (if request.verbose then showFound .output outcome.snippets outcome.placements else [])
    ++ showDiagnostics files outcome.diagnostics
    ++ (outcome.toolFailure?.map fun failure =>
      say .errors ("error: " ++ failure.describe)).toList

/-- What is said at the end if the module was patched. -/
def reportPatched (request : InjectRequest) (output : Path) (count : Nat) : List Echo :=
  (if request.verify then [say .output ("verified " ++ output.toString)] else [])
    ++ [say .output ("injected " ++ Text.numeral count ++ " snippet(s) -> " ++ output.toString)]

/-- What is asked of the machine to patch a module. -/
def moduleRequest (request : InjectRequest) (config : Config) (tools : Toolchain) :
    ModuleRequest where
  module := Path.ofString request.input
  output := Path.ofString request.output
  assembly := assemblyFor request config.assembly
  languages := config.languageTable
  tools := tools
  verify := request.verify

/-- Patches a module with tools that were found. -/
def injectWith [Host] (request : InjectRequest) (config : Config) (tools : Toolchain)
    (machine : Machine) : Ended :=
  let start := say .output ("injecting " ++ request.input ++ "...")
  match (moduleRequest request config tools).run machine with
  | (.error abort, machine) => ⟨⟨[start], .aborted abort⟩, machine⟩
  | (.ok outcome, machine) =>
    let said := start :: reportModule machine.files request outcome
    match outcome.output? with
    | some output =>
      ⟨⟨said ++ reportPatched request output outcome.placements.length, .success⟩, machine⟩
    | none => ⟨⟨said, .failure⟩, machine⟩

/-- Patches a module. -/
def inject [Host] (request : InjectRequest) (machine : Machine) : Ended :=
  match loadConfig machine.files request.config? with
  | .error error => ⟨configFailure error, machine⟩
  | .ok config =>
    match Toolchain.find machine config.tools with
    | .error abort => ⟨⟨[], .aborted abort⟩, machine⟩
    | .ok tools => injectWith request config tools machine

/-! ## Command lines -/

/-- What is said about the version. -/
def versionLine : String := "inlineil, version 0.1.0"

/-- What is said about the commands. -/
def helpText : String :=
  "Usage: inlineil [--version] COMMAND [OPTIONS] FILES\n\n"
    ++ "Commands:\n"
    ++ "  inject    Round-trip a module through ildasm/ilasm with its IL snippets injected.\n"
    ++ "  merge     Inject snippets into an already disassembled .il file.\n"
    ++ "  snippets  List the IL snippets in C# or VB.NET source files."

/-- Does what a request asks for. -/
def perform [Host] (machine : Machine) : Request → Ended
  | .version => ⟨⟨[say .output versionLine], .success⟩, machine⟩
  | .help => ⟨⟨[say .output helpText], .success⟩, machine⟩
  | .merge request =>
    let (spoken, files) := merge machine.files request
    ⟨spoken, { machine with files }⟩
  | .snippets request => ⟨snippets machine.files request, machine⟩
  | .inject request => inject request machine

/-- Does what a command line asks for. -/
def run [Host] (machine : Machine) (words : List String) : Ended :=
  match parse machine.files words with
  | .error .usage => ⟨⟨[], .usage⟩, machine⟩
  | .error .nullInName => ⟨⟨[], .aborted .nullInName⟩, machine⟩
  | .ok request => perform machine request

end ILGraft.CommandLine
