import ILGraft.Path
import ILGraft.Text.Lower

/-!
# Source languages

A language is known by the pair of markers around its code blocks. The extension of a file
decides its language; configured extensions come before the built-in ones.
-/

namespace ILGraft

/-- A source language with the lines that open and close a code block. -/
structure Language where
  /-- The name of the language. -/
  name : String
  /-- The line that opens a block. -/
  opening : String
  /-- The line that closes a block. -/
  closing : String
deriving Repr, DecidableEq

namespace Language

/-- The language of files with an unknown extension. -/
def csharp : Language := ⟨"C#", "#if IL", "#endif"⟩

/-- Visual Basic. -/
def visualBasic : Language := ⟨"Visual Basic", "#If IL Then", "#End If"⟩

end Language

/-- Extensions, dot included, with their languages. An extension whose configured markers are
no text has no language that could be used. -/
abbrev LanguageTable := List (String × Option Language)

/-- What a table says about a file. -/
inductive LanguageChoice
  /-- The extension belongs to a language. -/
  | known (language : Language)
  /-- The markers configured for the extension are no text. -/
  | unusable
  /-- Nothing is known of the extension. -/
  | unknown
deriving Repr, DecidableEq

namespace LanguageTable

/-- The extensions that need no configuration. -/
def builtIn : LanguageTable :=
  [(".cs", some Language.csharp), (".vb", some Language.visualBasic)]

/-- The lower-cased extension of a path whose separators may be slashes or backslashes. -/
def extensionOf (path : String) : String :=
  let slashed := String.ofList (Text.replaceChar '\\' ['/'] path.toList)
  String.ofList (Text.lower (Path.ofString slashed).suffix.toList)

/-- The language of a file. -/
def choose (table : LanguageTable) (path : String) : LanguageChoice :=
  match (table ++ builtIn).lookup (extensionOf path) with
  | some (some language) => .known language
  | some none => .unusable
  | none => .unknown

/-- The table with an entry for an extension, in place of the entry it had. -/
def set (table : LanguageTable) (extension : String) (language? : Option Language) :
    LanguageTable :=
  if (table.lookup extension).isSome then
    table.map fun entry => if entry.1 = extension then (extension, language?) else entry
  else table ++ [(extension, language?)]

end LanguageTable

end ILGraft
