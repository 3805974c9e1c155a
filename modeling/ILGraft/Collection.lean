import ILGraft.Document
import ILGraft.Source

/-!
# Collecting snippets

Every source file that a document names is read once, in order of first appearance, and its
code blocks become snippets. The first file that cannot be read or scanned ends the collection.
-/

namespace ILGraft

/-- The snippets of some source files, with a warning for every file whose language was
guessed. -/
structure Collection where
  /-- The snippets, file by file. -/
  snippets : List Snippet
  /-- The warnings, file by file. -/
  warnings : List Diagnostic
deriving DecidableEq

namespace Collection

/-- The warning that the language of a file is a guess. -/
def guessedLanguage (file : String) : Diagnostic where
  severity := .warning
  code := "W101"
  message := "can't identify language for '" ++ file ++ "', using C#"
  labels := []
  notes := []

/-- The snippets of a file whose language is known. -/
def scanAs (language : Language) (file text : String) : Except Source.Stop (List Snippet) :=
  (Block.scan text file language).mapError fun block => .fault (.unterminated block)

/-- The collection of one file, from a reader's answer. -/
def ofAnswer (table : LanguageTable) (file : String) (answer : Except Unreadable String) :
    Except Source.Stop Collection := do
  let text ← Source.load file answer
  match table.choose file with
  | .known language => return ⟨← scanAs language file text, []⟩
  | .unusable => throw .markersNotText
  | .unknown => return ⟨← scanAs Language.csharp file text, [guessedLanguage file]⟩

/-- The collection of files that are read one after the other. -/
def ofFiles {m : Type → Type} [Monad m] (table : LanguageTable)
    (read : String → m (Except Unreadable String)) :
    List String → m (Except Source.Stop Collection)
  | [] => pure (.ok ⟨[], []⟩)
  | file :: rest => do
    match ofAnswer table file (← read file) with
    | .error stop => pure (.error stop)
    | .ok first =>
      match ← ofFiles table read rest with
      | .error stop => pure (.error stop)
      | .ok more =>
        pure (.ok ⟨first.snippets ++ more.snippets, first.warnings ++ more.warnings⟩)

/-- The collection of the source files that a document names. -/
def ofDocument {m : Type → Type} [Monad m] (document : Document) (table : LanguageTable)
    (read : String → m (Except Unreadable String)) : m (Except Source.Stop Collection) :=
  ofFiles table read document.sourceFiles

end Collection

end ILGraft
