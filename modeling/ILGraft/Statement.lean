import ILGraft.Text.Blank

/-!
# Statements

The assembler takes a marker only in front of an instruction. A line is taken for one unless it
is blank or a single character, a comment, a directive, a brace, or the introducer of an
exception handler.
-/

namespace ILGraft

/-- The words that open a handler block. -/
def handlerIntroducers : List String := ["catch", "filter"]

/-- Whether a line is an instruction that can carry a marker. -/
def isStatement (line : String) : Bool :=
  let text := Text.trim line.toList
  1 < text.length &&
    !("//".toList.isPrefixOf text) &&
    !(text.head?.any fun c => c == '.' || c == '\x7b' || c == '\x7d') &&
    !(handlerIntroducers.any fun word => word.toList.isPrefixOf text)

end ILGraft
