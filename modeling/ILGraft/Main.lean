import ILGraft.CommandLine.Command

/-!
# The program

The files that a command line can refer to are looked up beforehand: the words of the command
line themselves, the configuration files above the working directory, and the sources that a
disassembly names. The command then works on what was found, and the files it changed are written
back. Processes are not started from here, so every tool counts as missing.
-/

namespace ILGraft.Main

/-- What stands where a path leads to. -/
def lookUp (name : String) : IO (Option Entry) := do
  let path := (← IO.currentDir) / name
  if ← path.isDir then return some .directory
  if ← path.pathExists then return some (.file (← IO.FS.readBinFile path).toList)
  return none

/-- The tree with what stands where the paths lead to. -/
def addNames (tree : FileTree) (names : List String) : IO FileTree :=
  names.foldlM
    (fun tree name => do
      if name.isEmpty then return tree
      match ← lookUp name with
      | some entry => return tree.add (Config.resolve tree (Path.ofString name)) entry
      | none => return tree)
    tree

/-- The names of files that a word of a command line may hold. -/
def namesOfWord (word : String) : List String :=
  [word, String.ofList (word.toList.drop 2),
    String.ofList ((word.toList.dropWhile (· ≠ '=')).drop 1)]

/-- The sources that the files of a tree name. -/
def namedSources (tree : FileTree) : List String :=
  tree.entries.flatMap fun
    | (place, .file _) =>
      match ModuleRequest.readDocument tree ⟨.top, place⟩ with
      | .ok document => document.sourceFiles
      | .error _ => []
    | _ => []

/-- The files that a command line can refer to. -/
def treeFor (words : List String) : IO FileTree := do
  let working := (Path.ofString (toString (← IO.currentDir))).parts
  let tree := FileTree.bare working
  let configs := (Config.ancestors working).map fun place => (Config.fileAt place).toString
  let tree ← addNames tree (configs ++ words.flatMap namesOfWord)
  addNames tree (namedSources tree)

/-- Writes the files of a tree that another one does not hold. -/
def writeBack (before after : FileTree) : IO Unit :=
  (after.changesSince before).forM fun (place, bytes) =>
    IO.FS.writeBinFile (Path.mk .top place).toString ⟨bytes.toArray⟩

/-- The host of the program: the streams are terminals if the system says so. -/
def host : IO Host := do
  let output ← (← IO.getStdout).isTty
  let errors ← (← IO.getStderr).isTty
  let isTerminal : CommandLine.Stream → Bool
    | .output => output
    | .errors => errors
  return { Host.collecting with isTerminal }

/-- Does what the words of a command line ask for, and returns the code of its end. -/
def run [Host] (words : List String) : IO UInt32 := do
  let files ← treeFor words
  let machine : Machine :=
    { files, scratch := ["tmp", "ilgraft"], script := List.replicate 3 .notFound }
  let ended := CommandLine.run machine words
  IO.print (CommandLine.textOn .output ended.transcript)
  IO.eprint (CommandLine.textOn .errors ended.transcript)
  match ended.exit with
  | .usage => IO.eprintln CommandLine.helpText
  | .aborted abort => IO.eprintln ("error: " ++ abort.message)
  | _ => pure ()
  writeBack files ended.machine.files
  return ended.exit.code.toUInt32

end ILGraft.Main

/-- The entry of the program. -/
def main (words : List String) : IO UInt32 := do
  let host ← ILGraft.Main.host
  @ILGraft.Main.run host words
