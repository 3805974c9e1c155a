import ILGraft.CommandLine.Options
import ILGraft.FileTree

/-!
# Requests

A command line names a command, its files and its options. Files that a command reads have to
exist; neither they nor files that it writes may be directories.
-/

namespace ILGraft.CommandLine

/-- What the command that patches modules is asked for. -/
structure InjectRequest where
  /-- The module. -/
  input : String
  /-- Where the patched module goes. -/
  output : String
  /-- The kind of module, if it is not left to the configuration. -/
  outputType? : Option String
  /-- The file of the strong-name key, if it is not left to the configuration. -/
  keyFile? : Option String
  /-- Whether the patched module is verified. -/
  verify : Bool
  /-- Whether the snippets are listed. -/
  verbose : Bool
  /-- The configuration file, if it is named. -/
  config? : Option String
deriving Repr, DecidableEq

/-- What the command that merges disassembled code is asked for. -/
structure MergeRequest where
  /-- The file of disassembled code. -/
  input : String
  /-- Where the merged code goes; it is printed if this is missing or empty. -/
  output? : Option String
  /-- Whether the snippets are listed. -/
  verbose : Bool
  /-- The configuration file, if it is named. -/
  config? : Option String
deriving Repr, DecidableEq

/-- What the command that lists snippets is asked for. -/
structure SnippetsRequest where
  /-- The source files. -/
  sources : List String
  /-- Whether the annotated code is shown. -/
  verbose : Bool
  /-- The configuration file, if it is named. -/
  config? : Option String
deriving Repr, DecidableEq

/-- What a command line asks for. -/
inductive Request
  | version
  | help
  | inject (request : InjectRequest)
  | merge (request : MergeRequest)
  | snippets (request : SnippetsRequest)
deriving Repr, DecidableEq

/-- Why a command line asks for nothing. -/
inductive Misuse
  /-- It is not of the form that the commands have, or its files are not as they should be. -/
  | usage
  /-- The name of a file holds a null character. -/
  | nullInName
deriving Repr, DecidableEq

/-- How a file has to be. -/
inductive FileRole
  /-- The file is read. -/
  | read
  /-- The file is written. -/
  | written
deriving Repr, DecidableEq

/-- Checks that a file is as its role asks for. -/
def checkFile (files : FileTree) (role : FileRole) (name : String) : Except Misuse Unit :=
  match files.status name, role with
  | .ok (.file _), _ => .ok ()
  | .ok .directory, _ => .error .usage
  | .error .nullInName, _ => .error .nullInName
  | .error _, .read => .error .usage
  | .error _, .written => .ok ()

/-- The option that asks for help. -/
def helpRule : OptionRule := ⟨"help", none, "--help", some ""⟩

/-- The option that lists snippets. -/
def verboseRule : OptionRule := ⟨"verbose", some 'v', "--verbose", some ""⟩

/-- The option that names the configuration file. -/
def configRule : OptionRule := ⟨"config", none, "--config", none⟩

/-- The option that names the output. -/
def outputRule : OptionRule := ⟨"output", some 'o', "--output", none⟩

/-- The options in front of the command. -/
def leadingRules : List OptionRule :=
  [⟨"version", none, "--version", some ""⟩, helpRule]

/-- The options of the command that patches modules. -/
def injectRules : List OptionRule :=
  [⟨"input", some 'i', "--input", none⟩, outputRule,
   ⟨"type", none, "--dll", some "dll"⟩, ⟨"type", none, "--exe", some "exe"⟩,
   ⟨"key", some 'k', "--key", none⟩, ⟨"verify", some 'c', "--verify", some ""⟩,
   verboseRule, configRule, helpRule]

/-- The options of the command that merges disassembled code. -/
def mergeRules : List OptionRule := [outputRule, verboseRule, configRule, helpRule]

/-- The options of the command that lists snippets. -/
def snippetsRules : List OptionRule := [verboseRule, configRule, helpRule]

/-- The role of the file that an option names, if it names one. -/
def roleOf : String → Option FileRole
  | "input" => some .read
  | "key" => some .read
  | "config" => some .read
  | "output" => some .written
  | _ => none

/-- Checks the files that options name, in the order of the options. -/
def checkSettings (files : FileTree) (settings : List Setting) : Except Misuse Unit :=
  (keysOf settings).forM fun key =>
    match roleOf key, lastOf settings key with
    | some role, some name => checkFile files role name
    | _, _ => .ok ()

/-- Whether a key was set. -/
def isSet (settings : List Setting) (key : String) : Bool :=
  (lastOf settings key).isSome

/-- The request to patch a module. -/
def injectRequest (files : FileTree) (read : WordsRead) : Except Misuse Request := do
  checkSettings files read.settings
  match lastOf read.settings "input", lastOf read.settings "output", read.others with
  | some input, some output, [] =>
    return .inject {
      input
      output
      outputType? := lastOf read.settings "type"
      keyFile? := lastOf read.settings "key"
      verify := isSet read.settings "verify"
      verbose := isSet read.settings "verbose"
      config? := lastOf read.settings "config" }
  | _, _, _ => throw .usage

/-- The request to merge disassembled code. -/
def mergeRequest (files : FileTree) (read : WordsRead) : Except Misuse Request := do
  checkSettings files read.settings
  match read.others with
  | [] => throw .usage
  | input :: more =>
    checkFile files .read input
    if more ≠ [] then throw .usage
    return .merge {
      input
      output? := lastOf read.settings "output"
      verbose := isSet read.settings "verbose"
      config? := lastOf read.settings "config" }

/-- The request to list snippets. -/
def snippetsRequest (files : FileTree) (read : WordsRead) : Except Misuse Request := do
  checkSettings files read.settings
  if read.others = [] then throw .usage
  read.others.forM (checkFile files .read)
  return .snippets {
    sources := read.others
    verbose := isSet read.settings "verbose"
    config? := lastOf read.settings "config" }

/-- The request of a command, given the words behind its name. -/
def commandRequest (rules : List OptionRule)
    (request : WordsRead → Except Misuse Request) (words : List String) :
    Except Misuse Request :=
  match readWords rules true words with
  | none => .error .usage
  | some read => if isSet read.settings "help" then .ok .help else request read

/-- The request of the options in front of the command, if there are any. -/
def leadingRequest? (read : WordsRead) : Option Request :=
  match keysOf read.settings with
  | [] => none
  | "version" :: _ => some .version
  | _ => some .help

/-- The request of words that begin with no command. Options behind two dashes are still looked
for in them. -/
def withoutCommand (words : List String) : Except Misuse Request :=
  match (readWords leadingRules false words).bind leadingRequest? with
  | some request => .ok request
  | none => .error .usage

/-- The request of a command line. -/
def parse (files : FileTree) (words : List String) : Except Misuse Request :=
  match readWords leadingRules false words with
  | none => .error .usage
  | some read =>
    match leadingRequest? read, read.others with
    | some request, _ => .ok request
    | none, [] => .error .usage
    | none, "inject" :: words => commandRequest injectRules (injectRequest files) words
    | none, "merge" :: words => commandRequest mergeRules (mergeRequest files) words
    | none, "snippets" :: words => commandRequest snippetsRules (snippetsRequest files) words
    | none, words => withoutCommand words

end ILGraft.CommandLine
