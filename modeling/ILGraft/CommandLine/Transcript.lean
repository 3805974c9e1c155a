import ILGraft.Host

/-!
# Transcripts

What a command says goes to one of two streams. On one that is no terminal, control sequences are
left out.
-/

namespace ILGraft.CommandLine

/-- Something said on a stream. -/
structure Echo where
  /-- The stream. -/
  stream : Stream
  /-- The text, with its line ending if it has one. -/
  text : String
deriving Repr, DecidableEq

/-- A line said on a stream. -/
def say (stream : Stream) (line : String) : Echo :=
  ⟨stream, line ++ "\n"⟩

/-- What arrives of something said. -/
def Echo.shown [Host] (echo : Echo) : String :=
  if Host.isTerminal echo.stream then echo.text
  else String.ofList (Host.strip echo.text.toList)

/-- All that arrives on a stream. -/
def textOn [Host] (stream : Stream) (transcript : List Echo) : String :=
  String.join ((transcript.filter fun echo => echo.stream == stream).map Echo.shown)

end ILGraft.CommandLine
