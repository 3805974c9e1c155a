/-!
# Options

Words of a command line that begin with a dash are options. A short option is a dash and a
letter; several can share a dash, and the rest of the word is the value of one that takes a
value. A long option is two dashes and a name, its value behind an equals sign or in the next
word. Two dashes by themselves end the options.
-/

namespace ILGraft.CommandLine

/-- An option that a command knows. -/
structure OptionRule where
  /-- What the option sets. -/
  key : String
  /-- Its letter, if it has a short form. -/
  letter? : Option Char
  /-- Its long form, dashes included. -/
  long : String
  /-- What it sets its key to; none if it takes a value. -/
  fixed? : Option String
deriving Repr, DecidableEq

/-- A key with the value that an option sets it to. -/
abbrev Setting := String × String

/-- What a word of options sets, and the key that takes its value from the next word. -/
structure WordRead where
  /-- What the word sets. -/
  settings : List Setting
  /-- The key that still lacks its value. -/
  wanting? : Option String
deriving Repr, DecidableEq

/-- Reads the letters of a word of short options. -/
def readLetters (rules : List OptionRule) : List Char → Option WordRead
  | [] => some ⟨[], none⟩
  | letter :: rest =>
    match rules.find? fun rule => rule.letter? == some letter with
    | none => none
    | some rule =>
      match rule.fixed? with
      | some value => (readLetters rules rest).map fun read =>
        { read with settings := (rule.key, value) :: read.settings }
      | none =>
        if rest = [] then some ⟨[], some rule.key⟩
        else some ⟨[(rule.key, String.ofList rest)], none⟩

/-- Reads a word that begins with a dash. -/
def readWord (rules : List OptionRule) (word : List Char) : Option WordRead :=
  let name := word.takeWhile (· ≠ '=')
  match rules.find? fun rule => rule.long.toList == name with
  | some rule =>
    match rule.fixed?, word.drop name.length with
    | some value, [] => some ⟨[(rule.key, value)], none⟩
    | some _, _ :: _ => none
    | none, [] => some ⟨[], some rule.key⟩
    | none, _ :: value => some ⟨[(rule.key, String.ofList value)], none⟩
  | none =>
    if "--".toList.isPrefixOf word then none else readLetters rules word.tail

/-- What the words of a command line set, and the words that are no options. -/
structure WordsRead where
  /-- What the options set, in order. -/
  settings : List Setting
  /-- The other words, in order. -/
  others : List String
deriving Repr, DecidableEq

/-- Whether a word is an option: a dash and something behind it. -/
def isOption (word : String) : Bool :=
  word.toList.head? == some '-' && 1 < word.length

/-- Reads words. If options may not follow other words, the first other word ends them. -/
def readWords (rules : List OptionRule) (mixed : Bool) : List String → Option WordsRead
  | [] => some ⟨[], []⟩
  | word :: rest =>
    if word = "--" then some ⟨[], rest⟩
    else if isOption word then
      match readWord rules word.toList, rest with
      | none, _ => none
      | some ⟨settings, none⟩, rest =>
        (readWords rules mixed rest).map fun read =>
          { read with settings := settings ++ read.settings }
      | some ⟨_, some _⟩, [] => none
      | some ⟨settings, some key⟩, value :: rest =>
        (readWords rules mixed rest).map fun read =>
          { read with settings := settings ++ (key, value) :: read.settings }
    else if mixed then
      (readWords rules mixed rest).map fun read => { read with others := word :: read.others }
    else some ⟨[], word :: rest⟩

/-- The value that was set last for a key. -/
def lastOf (settings : List Setting) (key : String) : Option String :=
  settings.reverse.lookup key

/-- The keys that were set, in the order in which each was set first. -/
def keysOf (settings : List Setting) : List String :=
  (settings.map (·.1)).eraseDups

end ILGraft.CommandLine
