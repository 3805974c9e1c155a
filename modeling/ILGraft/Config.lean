import ILGraft.FileTree
import ILGraft.Language
import ILGraft.Toml.Document

/-!
# Configuration

A configuration names the tools, says how modules are assembled, and adds source languages. Its
values are taken from the file as they are; only what has to be a table or a text is checked.
-/

namespace ILGraft

/-- The tools and how long each may run. -/
structure ToolSettings where
  /-- The directory of the tools. -/
  sdkDirectory : Toml.Value := .text ""
  /-- The disassembler. -/
  disassembler : Toml.Value := .text ""
  /-- The assembler. -/
  assembler : Toml.Value := .text ""
  /-- The verifier. -/
  verifier : Toml.Value := .text ""
  /-- The time limit, in seconds. -/
  timeout : Toml.Value := .integer 120
deriving Repr, BEq

/-- How modules are assembled. -/
structure AssemblySettings where
  /-- The kind of module. -/
  outputType : String := "exe"
  /-- Whether the code is optimised. -/
  optimize : Toml.Value := .boolean true
  /-- Whether the module carries debug information. -/
  debug : Toml.Value := .boolean true
  /-- The file of the strong-name key. -/
  keyFile : Toml.Value := .text ""
deriving Repr, BEq

/-- A configured language. -/
structure LanguageEntry where
  /-- The extension, lower-cased and with its dot. -/
  extension : String
  /-- The name of the language. -/
  name : Toml.Value
  /-- The marker that opens a block. -/
  opening : Toml.Value
  /-- The marker that closes a block. -/
  closing : Toml.Value
deriving Repr, BEq

/-- The language of an entry, if its markers are texts. Without a text for a name it is known by
its extension. -/
def LanguageEntry.language? (entry : LanguageEntry) : Option Language := do
  return ⟨entry.name.text?.getD entry.extension, ← entry.opening.text?, ← entry.closing.text?⟩

/-- A configuration. -/
structure Config where
  /-- The tools. -/
  tools : ToolSettings := {}
  /-- How modules are assembled. -/
  assembly : AssemblySettings := {}
  /-- The configured languages, one for each extension. -/
  languages : List LanguageEntry := []
deriving Repr, BEq

/-- Why a configuration cannot be loaded. -/
inductive ConfigError
  /-- The file cannot be read. -/
  | file (error : FileError)
  /-- The file is not UTF-8. -/
  | encoding (malformed : Text.Utf8.Malformed)
  /-- The file breaks the grammar. -/
  | grammar (error : Toml.Error)
  /-- The kind of module is neither of the two there are. -/
  | outputType (path value : String)
  /-- An entry is missing. -/
  | missingKey (key : String)
  /-- A value that has to be a table or a text is something else. -/
  | wrongType
deriving Repr, DecidableEq

/-- The wording of an error. -/
def ConfigError.message : ConfigError → String
  | .file error => error.message
  | .encoding malformed => malformed.message
  | .grammar error => error.message
  | .outputType path value =>
    path ++ ": assemble.output_type must be 'exe' or 'dll', got '" ++ value ++ "'"
  | .missingKey key => "'" ++ key ++ "'"
  | .wrongType => "a value has the wrong type"

namespace Config

/-- The name of configuration files. -/
def fileName : String := "inlineil.toml"

/-- The entries of a value that has to be a table. -/
def tableOf (value : Toml.Value) : Except ConfigError Toml.Table :=
  match value.table? with
  | some table => .ok table
  | none => .error .wrongType

/-- The value of a key that may be missing. -/
def valueOr (table : Toml.Table) (key : String) (fallback : Toml.Value) : Toml.Value :=
  (table.lookup key).getD fallback

/-- The value of a key that has to be there. -/
def valueOf (table : Toml.Table) (key : String) : Except ConfigError Toml.Value :=
  match table.lookup key with
  | some value => .ok value
  | none => .error (.missingKey key)

/-- Reads the table of the tools. -/
def toolsOf (value : Toml.Value) : Except ConfigError ToolSettings := do
  let table ← tableOf value
  return {
    sdkDirectory := valueOr table "sdk_dir" (.text "")
    disassembler := valueOr table "ildasm" (.text "")
    assembler := valueOr table "ilasm" (.text "")
    verifier := valueOr table "peverify" (.text "")
    timeout := valueOr table "timeout" (.integer 120) }

/-- Reads the table of assembly settings; `path` is how messages name the file. -/
def assemblyOf (path : String) (value : Toml.Value) : Except ConfigError AssemblySettings := do
  let table ← tableOf value
  match (valueOr table "output_type" (.text "exe")).text? with
  | none => throw .wrongType
  | some written =>
    let outputType := String.ofList (Text.lower written.toList)
    if outputType ≠ "exe" ∧ outputType ≠ "dll" then throw (.outputType path outputType)
    return {
      outputType
      optimize := valueOr table "optimize" (.boolean true)
      debug := valueOr table "debug" (.boolean true)
      keyFile := valueOr table "key_file" (.text "") }

/-- The extension that a key stands for: lower-cased, with a dot in front. -/
def extensionOfKey (key : String) : String :=
  let lowered := Text.lower key.toList
  String.ofList (if lowered.head? = some '.' then lowered else '.' :: lowered)

/-- Reads the language of a key. -/
def languageOf (key : String) (value : Toml.Value) : Except ConfigError LanguageEntry := do
  let extension := extensionOfKey key
  let table ← tableOf value
  let opening ← valueOf table "start"
  let closing ← valueOf table "end"
  return { extension, name := valueOr table "name" (.text extension), opening, closing }

/-- The languages with one more, in place of one that has the same extension. -/
def addLanguage (languages : List LanguageEntry) (entry : LanguageEntry) : List LanguageEntry :=
  if languages.any fun old => old.extension == entry.extension then
    languages.map fun old => if old.extension = entry.extension then entry else old
  else languages ++ [entry]

/-- Reads the languages of a table, one after the other. -/
def languagesOf : List LanguageEntry → Toml.Table → Except ConfigError (List LanguageEntry)
  | languages, [] => .ok languages
  | languages, (key, value) :: rest => do
    languagesOf (addLanguage languages (← languageOf key value)) rest

/-- Reads a configuration from the table of its file; `path` is how messages name the file. -/
def ofTable (path : String) (table : Toml.Table) : Except ConfigError Config := do
  let tools ← match table.lookup "toolchain" with
    | some value => toolsOf value
    | none => pure {}
  let assembly ← match table.lookup "assemble" with
    | some value => assemblyOf path value
    | none => pure {}
  let languages ← languagesOf [] (← tableOf (valueOr table "languages" (.table [])))
  return { tools, assembly, languages }

/-- The languages of a configuration by their extensions. -/
def languageTable (config : Config) : LanguageTable :=
  config.languages.map fun entry => (entry.extension, entry.language?)

/-- Reads a configuration from the bytes of its file. -/
def ofBytes [Host] (path : String) (bytes : List UInt8) : Except ConfigError Config := do
  let text ← (Text.Utf8.decode bytes).mapError .encoding
  let table ← (Toml.read text).mapError .grammar
  ofTable path table

/-- Loads the configuration file that a path leads to. -/
def load [Host] (tree : FileTree) (path : Path) : Except ConfigError Config := do
  let bytes ← (tree.readBytes path).mapError .file
  ofBytes path.toString bytes

/-- The place that a path leads to if double dots simply undo the part before them. -/
def resolve (tree : FileTree) (path : Path) : Location :=
  path.parts.foldl FileTree.step (tree.startOf path.root)

/-- A place and the places above it, the innermost first. -/
def ancestors (place : Location) : List Location :=
  (List.range (place.length + 1)).map fun up => place.take (place.length - up)

/-- The path of the configuration file at a place. -/
def fileAt (place : Location) : Path :=
  ⟨.top, place ++ [fileName]⟩

/-- The first of the places at which there is a configuration file. -/
def firstWith (tree : FileTree) : List Location → Except FileError (Option Location)
  | [] => .ok none
  | place :: rest =>
    match tree.find? (fileAt place) with
    | .error error => .error error
    | .ok (some _) => .ok (some place)
    | .ok none => firstWith tree rest

/-- The configuration file nearest to a path, at the path itself or above it. A file stands for
the directory it is in. -/
def findFrom (tree : FileTree) (start : Path) : Except FileError (Option Path) := do
  if start.toString.toList.contains '\x00' then throw .nullInName
  let place := resolve tree start
  let directory := if ← tree.isFile ⟨.top, place⟩ then place.dropLast else place
  return (← firstWith tree (ancestors directory)).map fileAt

/-- What is said when there is no configuration file. -/
def notFoundMessage : String := "No " ++ fileName ++ " found in any parent directory"

/-- Loads the configuration nearest to a path, or the defaults if there is none. -/
def loadNearest [Host] (tree : FileTree) (start : Path) : Except ConfigError Config := do
  match ← (findFrom tree start).mapError .file with
  | some path => load tree path
  | none => return {}

end Config

end ILGraft
