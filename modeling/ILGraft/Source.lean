import ILGraft.Fault
import ILGraft.FileTree

/-!
# Reading source files

The sources that a document names are read by a reader. A source that cannot be read or is not
UTF-8 is a fault of its own kind.
-/

namespace ILGraft

/-- Why a reader has no text for a source file. -/
inductive Unreadable
  /-- The system refuses, in its own words. -/
  | refused (reason : String)
  /-- The file is not UTF-8. -/
  | encoding (malformed : Text.Utf8.Malformed)
  /-- The name of the file holds a null character. -/
  | nullInName
deriving Repr, DecidableEq

/-- What a file name yields: a text or the reason why there is none. -/
abbrev Reader := String → Except Unreadable String

namespace Source

/-- What a file error is for a reader. -/
def unreadable : TextError → Unreadable
  | .file .nullInName => .nullInName
  | .file error => .refused error.message
  | .encoding malformed => .encoding malformed

/-- The reader of the files of a tree. -/
def reader (tree : FileTree) : Reader := fun file =>
  (tree.readText (Path.ofString file)).mapError unreadable

/-- Why the sources of a document yield no snippets. -/
inductive Stop
  /-- A fault that is reported. -/
  | fault (fault : Fault)
  /-- The name of a source file holds a null character. -/
  | nullInName
  /-- The markers configured for a source file are no text. -/
  | markersNotText
deriving DecidableEq

/-- The text of a source file, from a reader's answer. -/
def load (file : String) : Except Unreadable String → Except Stop String
  | .ok text => .ok text
  | .error (.refused reason) => .error (.fault (.unavailable file reason))
  | .error (.encoding malformed) =>
    .error (.fault (.unavailable file ("not valid UTF-8 (" ++ malformed.flaw.reason
      ++ " at byte " ++ Text.numeral malformed.offset ++ ")")))
  | .error .nullInName => .error .nullInName

end Source

end ILGraft
