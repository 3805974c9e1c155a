import ILGraft.Injection

/-!
# Sessions

A session holds a document and the texts of sources, and both change step by step: sources come
and go, the document is edited, injected into, and reloaded from its rendered form.
-/

namespace ILGraft

/-- A document with the answers of its reader. -/
structure Session where
  /-- What each known source yields. -/
  sources : List (String × Except Unreadable String)
  /-- The document. -/
  document : Document

namespace Session

/-- The session without sources and without lines. -/
def empty : Session := ⟨[], Document.empty⟩

/-- The reader of the known sources; others do not exist. -/
def reader (session : Session) : Reader := fun file =>
  (session.sources.lookup file).getD (.error (.refused FileError.missing.message))

/-- The session without a source. -/
def dropSource (session : Session) (file : String) : Session :=
  { session with sources := session.sources.filter fun source => source.1 ≠ file }

/-- Whether a source is known. -/
def knows (session : Session) (file : String) : Bool :=
  (session.sources.lookup file).isSome

/-- The session in which a source yields an answer. -/
def setSource (session : Session) (file : String) (answer : Except Unreadable String) : Session :=
  { session with sources := (session.dropSource file).sources ++ [(file, answer)] }

/-- The session with the document of a text. -/
def load (session : Session) (text : String) : Except Text.LongNumeral Session := do
  return { session with document := ← Document.ofText text }

/-- The session with its document rendered and read again. -/
def reload (session : Session) : Except Text.LongNumeral Session :=
  session.load (Document.render session.document.texts)

/-- A position among `size` places: negative positions count from the end, and what lies
outside moves to the nearest end. -/
def position (size : Nat) (index : Int) : Nat :=
  if index < 0 then (index + size).toNat else min index.toNat size

/-- The session with the lines from one position up to another replaced. -/
def replaceLines (session : Session) (first last : Int) (lines : List String) :
    Except Text.LongNumeral Session := do
  let texts := session.document.texts
  let start := position texts.length first
  let stop := max start (position texts.length last)
  return { session with
    document := ← Document.ofLines (texts.take start ++ lines ++ texts.drop stop) }

/-- Injects into the document. If that succeeds the merged lines become the document. -/
def inject (session : Session) : Except Abort (Injection × Session) := do
  match ← Injection.run session.document session.reader [] with
  | .merged lines placements warnings =>
    let document ← (Document.ofLines lines).mapError .longNumeral
    return (.merged lines placements warnings, { session with document })
  | other => return (other, session)

end Session

end ILGraft
