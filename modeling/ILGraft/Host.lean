import ILGraft.Text.Ansi

/-!
# Hosts

What a run does depends on a few things that neither the program nor its machine decides: whether
a stream is a terminal, what is left out of a text for one that is none, and how deeply values may
be nested before they can be neither read nor written. A host says so. It is inferred, so that what
depends on it need not pass it on.
-/

namespace ILGraft

/-- Where something is said. -/
inductive CommandLine.Stream
  /-- The stream of results. -/
  | output
  /-- The stream of complaints. -/
  | errors
deriving Repr, DecidableEq

/-- What a run is hosted by. -/
class Host where
  /-- Whether a stream is a terminal. -/
  isTerminal : CommandLine.Stream → Bool
  /-- What is left of a text on a stream that is no terminal. -/
  strip : List Char → List Char
  /-- How much depth there is for a value that is read: an array takes two of it, and an inline
  table three. -/
  readingDepth : Nat
  /-- How much depth there is for a value that is written: it takes one for itself and for each
  array or table around it. -/
  writingDepth : Nat

/-- A host that collects what is said: no stream is a terminal, and control sequences are left
out. -/
instance Host.collecting : Host where
  isTerminal _ := false
  strip := Text.Ansi.strip
  readingDepth := 986
  writingDepth := 986

end ILGraft
