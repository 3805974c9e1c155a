import ILGraft.Language
import ILGraft.Snippet
import ILGraft.Text.Line

/-!
# Code blocks of a source file

A block starts on the line after an opening marker and ends on the line before the next closing
marker. The compiler skips the block, so the code in it reaches the module only by injection.
Markers are compared without the blanks around them and without regard to case.
-/

namespace ILGraft.Block

/-- A block that the source file never closes, or opens a second time. -/
structure Unterminated where
  /-- The source file. -/
  file : String
  /-- The language whose markers were looked for. -/
  language : Language
  /-- The first line of the block, behind its opening marker. -/
  first : Nat
deriving Repr, DecidableEq

/-- A block that is still open. -/
structure Unclosed where
  /-- The first line of the block. -/
  first : Nat
  /-- The lines seen so far, the latest first. -/
  seen : List String
deriving Repr, DecidableEq

/-- What is compared when a line is checked for a marker. -/
def markOf (line : String) : List Char :=
  Text.lower (Text.trim line.toList)

/-- The snippet of a block that has ended. -/
def Unclosed.close (block : Unclosed) (file : String) : Snippet where
  file := file
  first := block.first
  last := block.first + block.seen.length - 1
  raw := block.seen.reverse
  covers := by simp only [List.length_reverse]; omega

/-- The snippets in lines that begin at a line number, inside or outside a block. -/
def scanFrom (file : String) (language : Language) :
    Nat → Option Unclosed → List String → Except Unterminated (List Snippet)
  | _, none, [] => .ok []
  | _, some block, [] => .error ⟨file, language, block.first⟩
  | number, none, line :: rest =>
    if markOf line = Text.lower language.opening.toList then
      scanFrom file language (number + 1) (some ⟨number + 1, []⟩) rest
    else scanFrom file language (number + 1) none rest
  | number, some block, line :: rest =>
    if markOf line = Text.lower language.closing.toList then
      (block.close file :: ·) <$> scanFrom file language (number + 1) none rest
    else if markOf line = Text.lower language.opening.toList then
      .error ⟨file, language, block.first⟩
    else
      scanFrom file language (number + 1)
        (some { block with seen := line :: block.seen }) rest

/-- The snippets of a source text, in order. -/
def scan (text : String) (file : String) (language : Language) :
    Except Unterminated (List Snippet) :=
  scanFrom file language 1 none ((Text.lines text.toList).map String.ofList)

end ILGraft.Block
