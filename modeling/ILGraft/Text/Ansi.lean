/-!
# Terminal control sequences

A control sequence is an escape and a bracket, parameter bytes, intermediate bytes and one final
byte. A stream that is no terminal gets its text without them.
-/

namespace ILGraft.Text.Ansi

/-- The escape character. -/
def escape : Char := '\x1b'

/-- Whether `c` can be a parameter of a control sequence. -/
def isParameter (c : Char) : Bool := '0' ≤ c && c ≤ '?'

/-- Whether `c` can stand between the parameters and the end of a control sequence. -/
def isIntermediate (c : Char) : Bool := ' ' ≤ c && c ≤ '/'

/-- Whether `c` ends a control sequence. -/
def isFinal (c : Char) : Bool := '@' ≤ c && c ≤ '~'

/-- What follows the control sequence that the text, taken behind an escape, completes. -/
def afterSequence? : List Char → Option (List Char)
  | '[' :: rest =>
    match (rest.dropWhile isParameter).dropWhile isIntermediate with
    | c :: tail => if isFinal c then some tail else none
    | [] => none
  | _ => none

theorem length_dropWhile_le (p : Char → Bool) (text : List Char) :
    (text.dropWhile p).length ≤ text.length := by
  induction text with
  | nil => simp
  | cons c rest ih =>
    rw [List.dropWhile_cons]
    split
    · simp only [List.length_cons]
      omega
    · simp

/-- A control sequence is not empty. -/
theorem length_afterSequence? {text tail : List Char} (h : afterSequence? text = some tail) :
    tail.length < text.length := by
  unfold afterSequence? at h
  split at h
  · rename_i rest
    have hfirst := length_dropWhile_le isParameter rest
    have hsecond := length_dropWhile_le isIntermediate (rest.dropWhile isParameter)
    split at h
    · rename_i c tail' heq
      split at h
      · obtain rfl := Option.some.inj h
        rw [heq] at hsecond
        simp only [List.length_cons] at *
        omega
      · cases h
    · cases h
  · cases h

/-- The text without its control sequences. An escape that begins none stays. -/
def strip : List Char → List Char
  | [] => []
  | c :: rest =>
    if c = escape then
      match _h : afterSequence? rest with
      | some tail => strip tail
      | none => c :: strip rest
    else c :: strip rest
termination_by text => text.length
decreasing_by
  · have := length_afterSequence? ‹_›
    simp only [List.length_cons]
    omega
  · simp
  · simp

end ILGraft.Text.Ansi
