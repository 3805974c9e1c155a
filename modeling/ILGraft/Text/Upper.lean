import ILGraft.Text.UpperTable

/-!
# Upper-casing

Each character goes to its upper-case form, which for ligatures and a few letters is several
characters long.
-/

namespace ILGraft.Text

/-- The upper-case form of a character. -/
def upperChar (c : Char) : List Char :=
  if c.toNat < 0x80 then [c.toUpper]
  else match upperExpansions.lookup c.toNat with
    | some forms => forms.map Char.ofNat
    | none => [mapByRuns upperRuns c]

/-- The upper-case form of a text. -/
def upper (text : List Char) : List Char :=
  text.flatMap upperChar

end ILGraft.Text
