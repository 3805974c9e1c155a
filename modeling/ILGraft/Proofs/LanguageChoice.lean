import ILGraft.Proofs.ConfiguredLanguages
import ILGraft.Proofs.FileExtensions

/-!
# The language of a file

A configuration describes languages by keys, and a file asks for one by its extension. The last
description whose key names the extension decides; where there is none, the extension is a built-in
one or unknown. Where the file lies, how the parts of its path are separated and in which case the
letters of ASCII are written have no influence.
-/

namespace ILGraft

/-- What is said about a file whose extension has an entry. -/
def LanguageEntry.choice (entry : LanguageEntry) : LanguageChoice :=
  match entry.language? with
  | some language => .known language
  | none => .unusable

namespace Config

/-! ## Descriptions -/

/-- A key names an extension if the two are the same once the key's dot is dropped and both are
lower-cased. -/
def Names (key : String) (extension : List Char) : Prop :=
  Text.lower (withoutDot key.toList) = Text.lower extension

/-- The entry that the last description of an extension calls for. -/
def LastDescribed (entries : Toml.Table) (extension : List Char) (entry : LanguageEntry) : Prop :=
  ∃ before after key markers, entries = before ++ (key, .table markers) :: after ∧
    Names key extension ∧ (∀ later ∈ after, ¬Names later.1 extension) ∧
    entry.extension = dotted extension ∧
    entry.name = valueOr markers "name" (.text (dotted extension)) ∧
    markers.lookup "start" = some entry.opening ∧ markers.lookup "end" = some entry.closing

/-- What descriptions select for an extension. -/
inductive Selects (entries : Toml.Table) (extension : List Char) : LanguageChoice → Prop
  /-- The extension is described, and its last description counts. -/
  | described {entry : LanguageEntry} (hlast : LastDescribed entries extension entry) :
      Selects entries extension entry.choice
  /-- The extension is not described and is that of C#. -/
  | csharp (hnone : ∀ entry ∈ entries, ¬Names entry.1 extension)
      (hlower : Text.lower extension = "cs".toList) :
      Selects entries extension (.known .csharp)
  /-- The extension is not described and is that of Visual Basic. -/
  | visualBasic (hnone : ∀ entry ∈ entries, ¬Names entry.1 extension)
      (hlower : Text.lower extension = "vb".toList) :
      Selects entries extension (.known .visualBasic)
  /-- The extension is not described, and no built-in language has it. -/
  | unknown (hnone : ∀ entry ∈ entries, ¬Names entry.1 extension)
      (hlower : Text.lower extension ∉ ["cs".toList, "vb".toList]) :
      Selects entries extension .unknown

/-- A key names an extension exactly if it stands for it. -/
theorem names_iff {key : String} {extension : List Char} :
    Names key extension ↔ extensionOfKey key = dotted extension := by
  rw [extensionOfKey_eq, dotted_inj, Names]

/-- An extension is not described exactly if there is no last description of it. -/
theorem lastFor_eq_none_iff {entries : Toml.Table} {extension : List Char} :
    lastFor entries (dotted extension) = none ↔
      ∀ entry ∈ entries, ¬Names entry.1 extension := by
  simp only [lastFor, List.find?_eq_none, List.mem_reverse, beq_iff_eq, names_iff]

/-- A description is read as the entry that it calls for. -/
theorem languageOf_eq_ok_iff {key : String} {value : Toml.Value} {entry : LanguageEntry} :
    languageOf key value = .ok entry ↔ ∃ markers, value = .table markers ∧
      entry.extension = extensionOfKey key ∧
      entry.name = valueOr markers "name" (.text (extensionOfKey key)) ∧
      markers.lookup "start" = some entry.opening ∧ markers.lookup "end" = some entry.closing := by
  constructor
  · intro hread
    obtain ⟨markers, hmarkers, hread⟩ := of_bind_ok hread
    obtain ⟨opening, hopening, hread⟩ := of_bind_ok hread
    obtain ⟨closing, hclosing, hread⟩ := of_bind_ok hread
    cases hread
    exact ⟨markers, table?_eq_some_iff.mp (tableOf_eq_ok_iff.mp hmarkers), rfl, rfl,
      valueOf_eq_ok_iff.mp hopening, valueOf_eq_ok_iff.mp hclosing⟩
  · rintro ⟨markers, rfl, hextension, hname, hopening, hclosing⟩
    obtain ⟨extension, name, opening, closing⟩ := entry
    obtain rfl : extension = extensionOfKey key := hextension
    obtain rfl : name = valueOr markers "name" (.text (extensionOfKey key)) := hname
    have hmarkers : tableOf (.table markers) = .ok markers := rfl
    rw [languageOf, hmarkers]
    simp only [Bind.bind, Except.bind, valueOf_eq_ok_iff.mpr hopening,
      valueOf_eq_ok_iff.mpr hclosing]
    rfl

/-- The last description of an extension and what it is read as make up the entry that it calls
for. -/
theorem lastDescribed_iff {entries : Toml.Table} {extension : List Char} {entry : LanguageEntry} :
    LastDescribed entries extension entry ↔ ∃ key value,
      lastFor entries (dotted extension) = some (key, value) ∧
        languageOf key value = .ok entry := by
  simp only [lastFor_eq_some_iff, languageOf_eq_ok_iff, LastDescribed, names_iff]
  constructor
  · rintro ⟨before, after, key, markers, hentries, hkey, hafter, hentry⟩
    refine ⟨key, .table markers, ⟨hkey, before, after, hentries, hafter⟩, markers, rfl, ?_⟩
    rwa [hkey]
  · rintro ⟨key, value, ⟨hkey, before, after, hentries, hafter⟩, markers, rfl, hentry⟩
    refine ⟨before, after, key, markers, hentries, hkey, hafter, ?_⟩
    rwa [← hkey]

/-! ## Reading the descriptions -/

section Reading

variable {entries others : Toml.Table} {read : List LanguageEntry} {extension : List Char}

/-- The entry of an extension is the one that its last description calls for. -/
theorem entryFor_eq_some_iff (hread : languagesOf [] entries = .ok read) {entry : LanguageEntry} :
    entryFor read (dotted extension) = some entry ↔ LastDescribed entries extension entry := by
  rw [lastDescribed_iff]
  rcases entryFor_of_languagesOf hread (dotted extension) with
    ⟨key, value, found, hlast, hfound, hdescribed⟩ | ⟨hnone, hkept⟩
  · rw [hfound, hlast]
    constructor
    · rintro ⟨⟩
      exact ⟨key, value, rfl, hdescribed⟩
    · rintro ⟨_, _, ⟨⟩, hentry⟩
      rw [Except.ok.inj (hdescribed.symm.trans hentry)]
  · have hmissing : entryFor ([] : List LanguageEntry) (dotted extension) = none := rfl
    rw [hkept, hnone, hmissing]
    refine iff_of_false nofun ?_
    rintro ⟨_, _, ⟨⟩, -⟩

/-- An extension has no entry exactly if it is not described. -/
theorem entryFor_eq_none_iff (hread : languagesOf [] entries = .ok read) :
    entryFor read (dotted extension) = none ↔ ∀ entry ∈ entries, ¬Names entry.1 extension := by
  rw [← lastFor_eq_none_iff]
  rcases entryFor_of_languagesOf hread (dotted extension) with
    ⟨key, value, found, hlast, hfound, -⟩ | ⟨hnone, hkept⟩
  · rw [hfound, hlast]
    exact iff_of_false nofun nofun
  · exact iff_of_true hkept hnone

/-- Descriptions are read alike if their keys stand for the same extensions. -/
theorem languagesOf_congr {languages : List LanguageEntry}
    (hsame : List.Forall₂ (fun entry other =>
      extensionOfKey entry.1 = extensionOfKey other.1 ∧ entry.2 = other.2) entries others) :
    languagesOf languages entries = languagesOf languages others := by
  induction hsame generalizing languages with
  | nil => rfl
  | @cons entry other entries others hentry _ ih =>
    obtain ⟨key, value⟩ := entry
    obtain ⟨otherKey, otherValue⟩ := other
    obtain ⟨hkey, rfl⟩ := hentry
    have hlanguage : languageOf key value = languageOf otherKey value := by
      rw [languageOf, languageOf, hkey]
    rw [languagesOf, languagesOf, hlanguage]
    simp only [ih]

end Reading

/-! ## Loaded configurations -/

/-- The table that the file at the end of a path holds. -/
def TableAt [Host] (tree : FileTree) (path : Path) (table : Toml.Table) : Prop :=
  ∃ bytes text, tree.readBytes path = .ok bytes ∧ Text.Utf8.decode bytes = .ok text ∧
    Toml.read text = .ok table

/-- The languages that a table describes, in its order. -/
def languageEntries (table : Toml.Table) : Toml.Table :=
  ((table.lookup "languages").bind Toml.Value.table?).getD []

/-- Descriptions that differ in nothing but the case of ASCII letters in their keys. -/
def SameDescriptions (entries others : Toml.Table) : Prop :=
  List.Forall₂ (fun entry other =>
    Text.SameLetters entry.1.toList other.1.toList ∧ entry.2 = other.2) entries others

/-- A file has one table at most. -/
theorem TableAt.unique [Host] {tree : FileTree} {path : Path} {table other : Toml.Table}
    (htable : TableAt tree path table) (hother : TableAt tree path other) : table = other := by
  obtain ⟨bytes, text, hbytes, htext, hread⟩ := htable
  obtain ⟨bytes', text', hbytes', htext', hread'⟩ := hother
  obtain rfl := Except.ok.inj (hbytes.symm.trans hbytes')
  obtain rfl := Except.ok.inj (htext.symm.trans htext')
  exact Except.ok.inj (hread.symm.trans hread')

/-- The languages of a configuration that is loaded are those that its file describes. -/
theorem exists_tableAt [Host] {tree : FileTree} {path : Path} {config : Config}
    (hload : load tree path = .ok config) :
    ∃ table, TableAt tree path table ∧
      languagesOf [] (languageEntries table) = .ok config.languages := by
  obtain ⟨bytes, hbytes, hconfig⟩ := of_bind_ok hload
  obtain ⟨text, table, htext, htable, hread⟩ := ofBytes_eq_ok_iff.mp hconfig
  refine ⟨table, ⟨bytes, text, of_mapError_ok hbytes, htext, htable⟩, ?_⟩
  rcases languages_of_ofTable hread with ⟨hmissing, hnil⟩ | ⟨entries, hentries, hlanguages⟩
  · rw [languageEntries, hmissing, hnil]
    rfl
  · rw [languageEntries, hentries]
    exact hlanguages

/-- What a configuration says about a file is decided by the entry of its extension, and without an
entry by the extension itself. -/
theorem choose_languageTable (config : Config) {file : String} {extension : List Char}
    (hextension : HasExtension file extension) :
    config.languageTable.choose file =
      match entryFor config.languages (dotted extension) with
      | some entry => entry.choice
      | none =>
        if Text.lower extension = "cs".toList then .known .csharp
        else if Text.lower extension = "vb".toList then .known .visualBasic
        else .unknown := by
  rw [LanguageTable.choose, LanguageTable.extensionOf_eq hextension, List.lookup_append,
    lookup_languageTable]
  cases entryFor config.languages (dotted extension) with
  | some entry =>
    simp only [Option.map_some, Option.some_or, LanguageEntry.choice]
    cases entry.language? <;> rfl
  | none =>
    have hbuiltIn (name : String) : dotted extension = String.ofList ('.' :: name.toList) ↔
        Text.lower extension = name.toList := by
      rw [dotted, String.ofList_inj, List.cons_inj_right]
    have hcs : dotted extension = ".cs" ↔ Text.lower extension = "cs".toList := hbuiltIn "cs"
    have hvb : dotted extension = ".vb" ↔ Text.lower extension = "vb".toList := hbuiltIn "vb"
    simp only [Option.map_none, Option.none_or, LanguageTable.builtIn, List.lookup_cons,
      List.lookup_nil, ← hcs, ← hvb]
    by_cases hfirst : dotted extension = ".cs"
    · simp [hfirst]
    · by_cases hsecond : dotted extension = ".vb"
      · simp [hsecond]
      · simp [hfirst, hsecond, beq_eq_false_iff_ne.mpr]

/-- A configuration says about a file what the descriptions that it was read from select. -/
theorem selects_iff {config : Config} {entries : Toml.Table}
    (hread : languagesOf [] entries = .ok config.languages) {file : String} {extension : List Char}
    (hextension : HasExtension file extension) {choice : LanguageChoice} :
    config.languageTable.choose file = choice ↔ Selects entries extension choice := by
  rw [choose_languageTable config hextension]
  constructor
  · rintro rfl
    cases hentry : entryFor config.languages (dotted extension) with
    | some entry => exact .described ((entryFor_eq_some_iff hread).mp hentry)
    | none =>
      have hnone := (entryFor_eq_none_iff hread).mp hentry
      by_cases hcs : Text.lower extension = "cs".toList
      · simpa only [if_pos hcs] using Selects.csharp hnone hcs
      · by_cases hvb : Text.lower extension = "vb".toList
        · simpa only [if_neg hcs, if_pos hvb] using Selects.visualBasic hnone hvb
        · have hother : Text.lower extension ∉ ["cs".toList, "vb".toList] := by
            simpa using And.intro hcs hvb
          simpa only [if_neg hcs, if_neg hvb] using Selects.unknown hnone hother
  · intro hselects
    cases hselects with
    | described hlast => rw [(entryFor_eq_some_iff hread).mpr hlast]
    | csharp hnone hcs => rw [(entryFor_eq_none_iff hread).mpr hnone, hcs]; rfl
    | visualBasic hnone hvb => rw [(entryFor_eq_none_iff hread).mpr hnone, hvb]; rfl
    | unknown hnone hother =>
      obtain ⟨hcs, hvb⟩ : Text.lower extension ≠ "cs".toList ∧
          Text.lower extension ≠ "vb".toList := by simpa using hother
      rw [(entryFor_eq_none_iff hread).mpr hnone]
      simp only [if_neg hcs, if_neg hvb]

/-- Configurations that are read from descriptions of the same letters say the same about files with
extensions of the same letters. -/
theorem choose_congr {config other : Config} {entries others : Toml.Table}
    (hread : languagesOf [] entries = .ok config.languages)
    (hother : languagesOf [] others = .ok other.languages)
    (hsame : SameDescriptions entries others) {file otherFile : String}
    {extension otherExtension : List Char} (hextension : HasExtension file extension)
    (hotherExtension : HasExtension otherFile otherExtension)
    (hletters : Text.SameLetters extension otherExtension) :
    other.languageTable.choose otherFile = config.languageTable.choose file := by
  have hkeys : languagesOf [] entries = languagesOf [] others := by
    refine languagesOf_congr (hsame.imp fun entry other hentry => ⟨?_, hentry.2⟩)
    rw [extensionOfKey, extensionOfKey, hentry.1.lower_eq]
  have hlanguages : config.languages = other.languages := by
    rw [hread, hother] at hkeys
    exact Except.ok.inj hkeys
  rw [choose_languageTable config hextension, choose_languageTable other hotherExtension,
    hlanguages, dotted, dotted, hletters.lower_eq]

/-- A configuration that is loaded says about a file what the descriptions in its own file select
for the extension, and nothing else about the name of the file counts; nor does the case of ASCII
letters, neither in the extension nor in the keys of the descriptions. -/
theorem choose_eq_iff_selects [Host] {tree : FileTree} {path : Path} {config : Config}
    (hload : load tree path = .ok config) :
    ∃ table, TableAt tree path table ∧
      (∀ file extension, HasExtension file extension →
        (∀ entry, entryFor config.languages (dotted extension) = some entry ↔
          LastDescribed (languageEntries table) extension entry) ∧
        ∀ choice, config.languageTable.choose file = choice ↔
          Selects (languageEntries table) extension choice) ∧
      ∀ tree' path' config' table', load tree' path' = .ok config' →
        TableAt tree' path' table' →
        SameDescriptions (languageEntries table) (languageEntries table') →
        ∀ file extension file' extension', HasExtension file extension →
          HasExtension file' extension' → Text.SameLetters extension extension' →
          config'.languageTable.choose file' = config.languageTable.choose file := by
  obtain ⟨table, htable, hread⟩ := exists_tableAt hload
  refine ⟨table, htable, ?_, ?_⟩
  · intro file extension hextension
    exact ⟨fun entry => entryFor_eq_some_iff hread, fun choice => selects_iff hread hextension⟩
  · intro tree' path' config' table' hload' htable' hsame file extension file' extension'
      hextension hextension' hletters
    obtain ⟨found, hfound, hread'⟩ := exists_tableAt hload'
    obtain rfl := hfound.unique htable'
    exact choose_congr hread hread' hsame hextension hextension' hletters

/-- A configuration file that describes C# twice, by keys that differ in a dot and in case. -/
def describedTwice : FileTree :=
  ⟨[], [([fileName], .file (Text.Utf8.encode
    "[languages.\".Cs\"]\nstart='a'\nend='b'\n[languages.CS]\nstart='c'\nend='d'\n".toList))]⟩

/-- Of two descriptions of one extension the later one is selected, for a file with dots in its name
and backslashes in front of it. -/
theorem choose_eq_iff_selects_describedTwice :
    ∃ config table, load describedTwice ⟨.top, [fileName]⟩ = .ok config ∧
      TableAt describedTwice ⟨.top, [fileName]⟩ table ∧
      HasExtension "src\\\\x/A.b.cS" ['c', 'S'] ∧
      Selects (languageEntries table) ['c', 'S'] (.known ⟨".cs", "c", "d"⟩) := by
  have hdirectory : ∀ c ∈ "src\\\\x/".toList.getLast?, isSeparator c = true := by
    rintro _ ⟨⟩
    rfl
  have hplain : ∀ c ∈ ['A', '.', 'b', 'c', 'S'], isSeparator c = false := by
    simp [isSeparator]
  have hextension : HasExtension "src\\\\x/A.b.cS" ['c', 'S'] :=
    ⟨⟨_, ['A', '.', 'b'], by decide, hdirectory, by decide, hplain⟩, by decide, by decide⟩
  have hchoice : (load describedTwice ⟨.top, [fileName]⟩).map (fun config =>
      config.languageTable.choose "src\\\\x/A.b.cS") = .ok (.known ⟨".cs", "c", "d"⟩) := by
    decide +kernel
  cases hload : load describedTwice ⟨.top, [fileName]⟩ with
  | error fault =>
    rw [hload] at hchoice
    cases hchoice
  | ok config =>
    rw [hload] at hchoice
    obtain ⟨table, htable, hselects, -⟩ := choose_eq_iff_selects hload
    exact ⟨config, table, rfl, htable, hextension,
      ((hselects _ _ hextension).2 _).mp (Except.ok.inj hchoice)⟩

end Config

end ILGraft
