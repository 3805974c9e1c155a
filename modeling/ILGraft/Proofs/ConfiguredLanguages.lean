import ILGraft.Proofs.ConfigurationFaults
import ILGraft.Proofs.MergeReports

/-!
# Configured languages

A file may describe the language of an extension more than once, since keys that differ in case or
in a dot stand for the same extension. The last description counts. Its markers are taken from the
file as they are, and whether they are texts matters only when a source with that extension is
scanned.
-/

namespace ILGraft.Config

/-! ## The last description of an extension -/

/-- The entry of an extension. -/
def entryFor (languages : List LanguageEntry) (extension : String) : Option LanguageEntry :=
  languages.find? fun entry => entry.extension == extension

/-- The last of the described languages whose key stands for an extension. -/
def lastFor (entries : Toml.Table) (extension : String) : Option (String × Toml.Value) :=
  entries.reverse.find? fun entry => extensionOfKey entry.1 == extension

/-- A description is the last one exactly if none behind it is of the same extension. -/
theorem lastFor_eq_some_iff {entries : Toml.Table} {extension : String}
    {entry : String × Toml.Value} :
    lastFor entries extension = some entry ↔
      extensionOfKey entry.1 = extension ∧ ∃ before after, entries = before ++ entry :: after ∧
        ∀ later ∈ after, extensionOfKey later.1 ≠ extension := by
  rw [lastFor, List.find?_eq_some_iff_append, beq_iff_eq]
  refine and_congr_right fun _ => ?_
  constructor
  · rintro ⟨after, before, hentries, hafter⟩
    refine ⟨before.reverse, after.reverse, by simpa using congrArg List.reverse hentries, ?_⟩
    simpa using hafter
  · rintro ⟨before, after, rfl, hafter⟩
    exact ⟨after.reverse, before.reverse, by simp, by simpa using hafter⟩

/-- The entry that is found has the extension. -/
theorem extension_of_entryFor {languages : List LanguageEntry} {extension : String}
    {found : LanguageEntry} (hfound : entryFor languages extension = some found) :
    found.extension = extension := by
  simpa using List.find?_some hfound

/-- An entry that takes the place of those with its extension is found in their place. -/
theorem entryFor_map (languages : List LanguageEntry) (entry : LanguageEntry) (extension : String) :
    entryFor (languages.map fun old => if old.extension = entry.extension then entry else old)
        extension =
      (entryFor languages extension).map fun old =>
        if old.extension = entry.extension then entry else old := by
  have hkeeps : ((fun old : LanguageEntry => old.extension == extension) ∘ fun old =>
      if old.extension = entry.extension then entry else old) =
        fun old => old.extension == extension := by
    funext old
    by_cases hold : old.extension = entry.extension <;> simp [hold]
  rw [entryFor, List.find?_map, hkeeps, entryFor]

/-- One more language takes the place of the entry of its extension and changes no other. -/
theorem entryFor_addLanguage (languages : List LanguageEntry) (entry : LanguageEntry)
    (extension : String) :
    entryFor (addLanguage languages entry) extension =
      if entry.extension = extension then some entry else entryFor languages extension := by
  have hany : (languages.any fun old => old.extension == entry.extension) =
      (entryFor languages entry.extension).isSome := List.isSome_find?.symm
  rw [addLanguage, hany]
  by_cases hextension : entry.extension = extension
  · subst hextension
    rw [if_pos rfl]
    cases hfound : entryFor languages entry.extension with
    | none =>
      rw [entryFor] at hfound
      simp [entryFor, List.find?_append, hfound]
    | some found =>
      simp [entryFor_map, hfound, extension_of_entryFor hfound]
  · rw [if_neg hextension]
    split
    · rw [entryFor_map]
      cases hfound : entryFor languages extension with
      | none => rfl
      | some found => simp [extension_of_entryFor hfound, Ne.symm hextension]
    · simp [entryFor, List.find?_append, hextension]

/-- What a described language becomes. -/
structure Describes (entry : LanguageEntry) (key : String) (value : Toml.Value) : Prop where
  /-- The key stands for the extension. -/
  extension : entry.extension = extensionOfKey key
  /-- The markers are taken as they are. -/
  markers : ∃ entries, value = .table entries ∧ entries.lookup "start" = some entry.opening ∧
    entries.lookup "end" = some entry.closing

/-- A language that is read is the one described. -/
theorem describes_of_languageOf {key : String} {value : Toml.Value} {entry : LanguageEntry}
    (hread : languageOf key value = .ok entry) : Describes entry key value := by
  obtain ⟨entries, hentries, hread⟩ := of_bind_ok hread
  obtain ⟨opening, hopening, hread⟩ := of_bind_ok hread
  obtain ⟨closing, hclosing, hread⟩ := of_bind_ok hread
  cases hread
  exact ⟨rfl, entries, table?_eq_some_iff.mp (tableOf_eq_ok_iff.mp hentries),
    valueOf_eq_ok_iff.mp hopening, valueOf_eq_ok_iff.mp hclosing⟩

/-- The entry of an extension is what its last description is read as; without any, it is the entry
there was before. -/
theorem entryFor_of_languagesOf {languages read : List LanguageEntry} {entries : Toml.Table}
    (hread : languagesOf languages entries = .ok read) (extension : String) :
    (∃ key value entry, lastFor entries extension = some (key, value) ∧
      entryFor read extension = some entry ∧ languageOf key value = .ok entry) ∨
    lastFor entries extension = none ∧ entryFor read extension = entryFor languages extension := by
  induction entries generalizing languages with
  | nil =>
    cases hread
    exact .inr ⟨rfl, rfl⟩
  | cons first rest ih =>
    obtain ⟨key, value⟩ := first
    obtain ⟨entry, hentry, hrest⟩ := of_bind_ok hread
    have hlast : lastFor ((key, value) :: rest) extension = (lastFor rest extension).or
        (if extensionOfKey key = extension then some (key, value) else none) := by
      simp [lastFor, List.find?_append, List.find?_singleton]
    rw [hlast]
    rcases ih hrest with ⟨other, found, last, hother, hlast, hother'⟩ | ⟨hnone, hkept⟩
    · exact .inl ⟨other, found, last, by rw [hother]; rfl, hlast, hother'⟩
    · rw [hnone, hkept, entryFor_addLanguage, (describes_of_languageOf hentry).extension]
      by_cases hkey : extensionOfKey key = extension
      · exact .inl ⟨key, value, entry, by simp [hkey], if_pos hkey, hentry⟩
      · exact .inr ⟨by simp [hkey], if_neg hkey⟩

/-! ## Markers that are no texts -/

/-- The last description of the language of an extension has a marker that is no text. -/
inductive Unscannable (table : Toml.Table) (extension : String) : Prop
  /-- A marker stands in the description and is no text. -/
  | marker {before after entries : Toml.Table} {key place : String} {marker : Toml.Value}
      (hlanguages : table.lookup "languages" =
        some (.table (before ++ (key, .table entries) :: after)))
      (hkey : extensionOfKey key = extension)
      (hlast : ∀ later ∈ after, extensionOfKey later.1 ≠ extension)
      (hplace : place ∈ ["start", "end"]) (hmarker : entries.lookup place = some marker)
      (hnone : marker.text? = none) : Unscannable table extension

/-- An entry has no language exactly if one of its markers is no text. -/
theorem language?_eq_none_iff {entry : LanguageEntry} :
    entry.language? = none ↔ entry.opening.text? = none ∨ entry.closing.text? = none := by
  unfold LanguageEntry.language?
  cases entry.opening.text? <;> cases entry.closing.text? <;> simp

/-- The languages that are read are those of the table, if it has any. -/
theorem languages_of_ofTable {path : String} {table : Toml.Table} {config : Config}
    (hread : ofTable path table = .ok config) :
    table.lookup "languages" = none ∧ config.languages = [] ∨
      ∃ entries, table.lookup "languages" = some (.table entries) ∧
        languagesOf [] entries = .ok config.languages := by
  rw [ofTable_eq_parts] at hread
  obtain ⟨tools, -, hread⟩ := of_bind_ok hread
  obtain ⟨assembly, -, hread⟩ := of_bind_ok hread
  obtain ⟨languages, hlanguages, hread⟩ := of_bind_ok hread
  cases hread
  cases hvalue : table.lookup "languages" with
  | none =>
    rw [hvalue] at hlanguages
    exact .inl ⟨rfl, (Except.ok.inj hlanguages).symm⟩
  | some value =>
    rw [hvalue] at hlanguages
    obtain ⟨entries, hentries, hlanguages⟩ := of_bind_ok hlanguages
    obtain rfl := table?_eq_some_iff.mp (tableOf_eq_ok_iff.mp hentries)
    exact .inr ⟨entries, rfl, hlanguages⟩

/-- The entry of an extension has no language exactly if its last description has a marker that is
no text. -/
theorem exists_entryFor_iff {path : String} {table : Toml.Table} {config : Config}
    (hread : ofTable path table = .ok config) (extension : String) :
    (∃ entry, entryFor config.languages extension = some entry ∧ entry.language? = none) ↔
      Unscannable table extension := by
  constructor
  · rintro ⟨entry, hentry, hnone⟩
    rcases languages_of_ofTable hread with ⟨-, hnil⟩ | ⟨entries, hvalue, hlanguages⟩
    · rw [hnil] at hentry
      cases hentry
    rcases entryFor_of_languagesOf hlanguages extension with
      ⟨key, described, found, hlast, hfound, hdescribed⟩ | ⟨-, hkept⟩
    · obtain rfl := Option.some.inj (hentry.symm.trans hfound)
      obtain ⟨hkey, before, after, rfl, hafter⟩ := lastFor_eq_some_iff.mp hlast
      obtain ⟨markers, rfl, hopening, hclosing⟩ := (describes_of_languageOf hdescribed).markers
      rcases language?_eq_none_iff.mp hnone with hnone | hnone
      · exact .marker hvalue hkey hafter List.mem_cons_self hopening hnone
      · exact .marker hvalue hkey hafter (by decide) hclosing hnone
    · rw [hkept] at hentry
      cases hentry
  · rintro @⟨before, after, markers, key, place, marker, hvalue, hkey, hafter, hplace, hmarker,
      hnone⟩
    rcases languages_of_ofTable hread with ⟨hmissing, -⟩ | ⟨entries, hentries, hlanguages⟩
    · cases hmissing.symm.trans hvalue
    obtain rfl := Toml.Value.table.inj (Option.some.inj (hvalue.symm.trans hentries))
    have hlast : lastFor (before ++ (key, .table markers) :: after) extension =
        some (key, .table markers) := lastFor_eq_some_iff.mpr ⟨hkey, before, after, rfl, hafter⟩
    rcases entryFor_of_languagesOf hlanguages extension with
      ⟨other, described, found, hother, hfound, hdescribed⟩ | ⟨hother, -⟩
    · obtain ⟨rfl, rfl⟩ := Prod.mk.inj (Option.some.inj (hlast.symm.trans hother))
      obtain ⟨read, hmarkers, hopening, hclosing⟩ := (describes_of_languageOf hdescribed).markers
      obtain rfl := Toml.Value.table.inj hmarkers
      refine ⟨found, hfound, language?_eq_none_iff.mpr ?_⟩
      simp only [List.mem_cons, List.not_mem_nil, or_false] at hplace
      rcases hplace with rfl | rfl
      · exact .inl (Option.some.inj (hopening.symm.trans hmarker) ▸ hnone)
      · exact .inr (Option.some.inj (hclosing.symm.trans hmarker) ▸ hnone)
    · cases hlast.symm.trans hother

/-- The table of languages finds what the entry of an extension has become. -/
theorem lookup_languageTable (config : Config) (extension : String) :
    config.languageTable.lookup extension =
      (entryFor config.languages extension).map LanguageEntry.language? := by
  unfold languageTable entryFor
  induction config.languages with
  | nil => rfl
  | cons entry rest ih =>
    rw [List.map_cons, List.lookup_cons, List.find?_cons, ih]
    by_cases hextension : entry.extension = extension
    · simp [hextension]
    · simp [hextension, Ne.symm hextension, beq_eq_false_iff_ne.mpr]

end ILGraft.Config

namespace ILGraft

/-- A file has an extension whose language cannot be used exactly if the table has the extension
without a language. -/
theorem LanguageTable.choose_eq_unusable_iff {table : LanguageTable} {file : String} :
    table.choose file = .unusable ↔ table.lookup (extensionOf file) = some none := by
  have hbuiltIn : builtIn.lookup (extensionOf file) ≠ some none := by
    intro hfound
    obtain ⟨before, after, hentries, -⟩ := List.lookup_eq_some_iff.mp hfound
    have hall : ∀ entry ∈ builtIn, entry.2 ≠ none := by decide
    exact hall (extensionOf file, none) (hentries ▸ by simp) rfl
  rw [choose, List.lookup_append]
  cases hfound : table.lookup (extensionOf file) with
  | none =>
    rw [Option.none_or]
    cases hfound' : builtIn.lookup (extensionOf file) with
    | none => simp
    | some language? =>
      cases language? with
      | none => exact absurd hfound' hbuiltIn
      | some language => simp
  | some language? => cases language? <;> simp

/-- A file is scanned for no markers exactly if its language cannot be used. -/
theorem LanguageTable.scannedAs_eq_none_iff {table : LanguageTable} {file : String} :
    table.scannedAs file = none ↔ table.choose file = .unusable := by
  unfold scannedAs
  cases table.choose file <;> simp

namespace Collection

/-- The markers of a file stop its collection exactly if the file is read and its language cannot be
used. -/
theorem ofAnswer_eq_markersNotText_iff {table : LanguageTable} {file : String}
    {answer : Except Unreadable String} :
    ofAnswer table file answer = .error .markersNotText ↔
      (∃ text, answer = .ok text) ∧ table.choose file = .unusable := by
  constructor
  · intro hstop
    cases answer with
    | error cause => cases cause <;> cases hstop
    | ok text =>
      refine ⟨⟨text, rfl⟩, ?_⟩
      cases hlanguage : table.scannedAs file with
      | none => exact table.scannedAs_eq_none_iff.mp hlanguage
      | some language =>
        obtain ⟨warnings, -, hscan⟩ := ofAnswer_eq_scan hlanguage text
        rw [hscan] at hstop
        obtain ⟨_, -, hfault⟩ := mapError_eq_error_iff.mp (map_eq_error_iff.mp hstop)
        cases hfault
  · rintro ⟨⟨text, rfl⟩, hchoice⟩
    simp only [ofAnswer, hchoice]
    rfl

end Collection

/-- The first of some files that are scanned one after the other is reached if it can be read and
those in front of it let the scan pass. -/
def Reached (read : Reader) (passes : String → Prop) (files : List String) (file : String) : Prop :=
  ∃ before after, files = before ++ file :: after ∧ (∀ earlier ∈ before, passes earlier) ∧
    ∃ text, read file = .ok text

/-- The first file is reached if it can be read; another one is reached among the others, if the
first lets the scan pass. -/
theorem reached_cons_iff {read : Reader} {passes : String → Prop} {first file : String}
    {rest : List String} :
    Reached read passes (first :: rest) file ↔
      (first = file ∧ ∃ text, read file = .ok text) ∨
        passes first ∧ Reached read passes rest file := by
  constructor
  · rintro ⟨before, after, hfiles, hbefore, hread⟩
    cases before with
    | nil => exact .inl ⟨(List.cons.inj hfiles).1, hread⟩
    | cons other before =>
      obtain ⟨rfl, rfl⟩ := List.cons.inj hfiles
      obtain ⟨hfirst, hbefore⟩ := List.forall_mem_cons.mp hbefore
      exact .inr ⟨hfirst, before, after, rfl, hbefore, hread⟩
  · rintro (⟨rfl, hread⟩ | ⟨hfirst, before, after, rfl, hbefore, hread⟩)
    · exact ⟨[], rest, rfl, List.forall_mem_nil _, hread⟩
    · exact ⟨first :: before, after, rfl, List.forall_mem_cons.mpr ⟨hfirst, hbefore⟩, hread⟩

namespace Injection

/-- A source file whose snippets are collected. -/
def Collected (table : LanguageTable) (read : Reader) (file : String) : Prop :=
  ∃ collection, Collection.ofAnswer table file (read file) = .ok collection

/-- Once the snippets are collected, markers are of no matter. -/
theorem ofCollection_ne_notText (document : Document) (collection : Collection) :
    ofCollection document collection ≠ .error .notText := by
  unfold ofCollection
  cases Placement.locateAll document collection.snippets with
  | error fault => exact nofun
  | ok placements =>
    cases hmerged : Splice.merge document.texts placements <;> simp only [hmerged] <;> exact nofun

/-- The markers of a source stop an injection exactly if it reaches a source whose language cannot
be used. -/
theorem run_eq_notText_iff {document : Document} {read : Reader} {table : LanguageTable} :
    run document read table = .error .notText ↔
      ∃ file, Reached read (Collected table read) document.sourceFiles file ∧
        table.choose file = .unusable := by
  have hcollection : run document read table = .error .notText ↔
      Collection.ofFiles (m := Id) table read document.sourceFiles = .error .markersNotText := by
    unfold run Collection.ofDocument
    cases Collection.ofFiles (m := Id) table read document.sourceFiles with
    | ok collection => exact iff_of_false (ofCollection_ne_notText document collection) nofun
    | error stop =>
      cases stop with
      | markersNotText => exact iff_of_true rfl rfl
      | fault fault => exact iff_of_false nofun nofun
      | nullInName => exact iff_of_false nofun nofun
  have hfirst : Collection.ofFiles (m := Id) table read document.sourceFiles =
        .error .markersNotText ↔
      document.sourceFiles.mapM (fun file => Collection.ofAnswer table file (read file)) =
        .error .markersNotText := by
    rw [Collection.ofFiles_eq_mapM]
    exact map_eq_error_iff
  rw [hcollection, hfirst, mapM_eq_error_iff]
  simp only [Collection.ofAnswer_eq_markersNotText_iff]
  constructor
  · rintro ⟨before, file, after, hfiles, hbefore, hread, hunusable⟩
    exact ⟨file, ⟨before, after, hfiles, hbefore, hread⟩, hunusable⟩
  · rintro ⟨file, ⟨before, after, hfiles, hbefore, hread⟩, hunusable⟩
    exact ⟨before, file, after, hfiles, hbefore, hread, hunusable⟩

end Injection

end ILGraft
