import ILGraft.Config
import ILGraft.Proofs.Results

/-!
# Faults of configurations

A file is no configuration for the first of these causes: its bytes are not UTF-8, its text breaks
the grammar, or a value in its table is not what it has to be. The tools are read first, then the
settings of the assembler, then the languages one by one; each of them has to be a table, the kind
of module a text that names one of two, and a language has to have both of its markers. Whatever
else a value is, it is taken as it stands.
-/

namespace ILGraft.Config

/-! ## Causes -/

/-- The tools are no table. -/
inductive ToolsRefused (table : Toml.Table) : ConfigError → Prop
  /-- A value stands there that is no table. -/
  | notTable {value : Toml.Value} (hvalue : table.lookup "toolchain" = some value)
      (hnone : value.table? = none) : ToolsRefused table .wrongType

/-- What is wrong with the settings of the assembler; `path` is how messages name the file. -/
inductive AssemblyRefused (path : String) (table : Toml.Table) : ConfigError → Prop
  /-- They are no table. -/
  | notTable {value : Toml.Value} (hvalue : table.lookup "assemble" = some value)
      (hnone : value.table? = none) : AssemblyRefused path table .wrongType
  /-- The kind of module is no text. -/
  | kindNotText {settings : Toml.Table} {value : Toml.Value}
      (hsettings : table.lookup "assemble" = some (.table settings))
      (hvalue : settings.lookup "output_type" = some value) (hnone : value.text? = none) :
      AssemblyRefused path table .wrongType
  /-- The kind of module is neither of the two there are, in whatever case it is written. -/
  | unknownKind {settings : Toml.Table} {written : String}
      (hsettings : table.lookup "assemble" = some (.table settings))
      (hvalue : settings.lookup "output_type" = some (.text written))
      (hunknown : String.ofList (Text.lower written.toList) ∉ ["exe", "dll"]) :
      AssemblyRefused path table (.outputType path (String.ofList (Text.lower written.toList)))

/-- What is wrong with the value that describes a language. -/
inductive LanguageRefused (value : Toml.Value) : ConfigError → Prop
  /-- It is no table. -/
  | notTable (hnone : value.table? = none) : LanguageRefused value .wrongType
  /-- It has no marker that opens a block. -/
  | noOpening {entries : Toml.Table} (hentries : value.table? = some entries)
      (hopening : entries.lookup "start" = none) : LanguageRefused value (.missingKey "start")
  /-- It has no marker that closes a block. -/
  | noClosing {entries : Toml.Table} {opening : Toml.Value} (hentries : value.table? = some entries)
      (hopening : entries.lookup "start" = some opening) (hclosing : entries.lookup "end" = none) :
      LanguageRefused value (.missingKey "end")

/-- What is wrong with the languages: the first that is refused decides. -/
inductive LanguagesRefused (table : Toml.Table) : ConfigError → Prop
  /-- They are no table. -/
  | notTable {value : Toml.Value} (hvalue : table.lookup "languages" = some value)
      (hnone : value.table? = none) : LanguagesRefused table .wrongType
  /-- One of them is refused, and none before it is. -/
  | language {before after : Toml.Table} {key : String} {value : Toml.Value} {error : ConfigError}
      (hentries : table.lookup "languages" = some (.table (before ++ (key, value) :: after)))
      (hbefore : ∀ earlier ∈ before, ∀ error, ¬LanguageRefused earlier.2 error)
      (hvalue : LanguageRefused value error) : LanguagesRefused table error

/-- What is wrong with the table of a file: the first part that is refused decides. -/
inductive Refused (path : String) (table : Toml.Table) : ConfigError → Prop
  /-- The tools are. -/
  | tools {error : ConfigError} (htools : ToolsRefused table error) : Refused path table error
  /-- The settings of the assembler are, and the tools are not. -/
  | assembly {error : ConfigError} (htools : ∀ error, ¬ToolsRefused table error)
      (hassembly : AssemblyRefused path table error) : Refused path table error
  /-- The languages are, and nothing in front of them is. -/
  | languages {error : ConfigError} (htools : ∀ error, ¬ToolsRefused table error)
      (hassembly : ∀ error, ¬AssemblyRefused path table error)
      (hlanguages : LanguagesRefused table error) : Refused path table error

/-- A table is refused for a value of the wrong type, for an unknown kind of module, or for a marker
that is missing. -/
theorem Refused.error_cases {path : String} {table : Toml.Table} {error : ConfigError}
    (hrefused : Refused path table error) :
    error = .wrongType ∨ (∃ value, error = .outputType path value) ∨
      ∃ key, error = .missingKey key := by
  cases hrefused with
  | tools htools =>
    cases htools
    exact .inl rfl
  | assembly _ hassembly =>
    cases hassembly with
    | notTable => exact .inl rfl
    | kindNotText => exact .inl rfl
    | unknownKind => exact .inr (.inl ⟨_, rfl⟩)
  | languages _ _ hlanguages =>
    cases hlanguages with
    | notTable => exact .inl rfl
    | language _ _ hvalue =>
      cases hvalue with
      | notTable => exact .inl rfl
      | noOpening => exact .inr (.inr ⟨_, rfl⟩)
      | noClosing => exact .inr (.inr ⟨_, rfl⟩)

/-- Why the bytes of a file are no configuration. -/
inductive Unusable [Host] (path : String) (bytes : List UInt8) : ConfigError → Prop
  /-- They are not UTF-8. -/
  | encoding {malformed : Text.Utf8.Malformed} (htext : Text.Utf8.decode bytes = .error malformed) :
      Unusable path bytes (.encoding malformed)
  /-- Their text breaks the grammar. -/
  | grammar {text : List Char} {error : Toml.Error} (htext : Text.Utf8.decode bytes = .ok text)
      (htable : Toml.read text = .error error) : Unusable path bytes (.grammar error)
  /-- A value of their table is not what it has to be. -/
  | refused {text : List Char} {table : Toml.Table} {error : ConfigError}
      (htext : Text.Utf8.decode bytes = .ok text) (htable : Toml.read text = .ok table)
      (hrefused : Refused path table error) : Unusable path bytes error

/-! ## Reading part by part -/

variable {error : ConfigError}

/-- A value is refused as a table exactly if it is none. -/
theorem tableOf_eq_error_iff {value : Toml.Value} :
    tableOf value = .error error ↔ value.table? = none ∧ error = .wrongType := by
  unfold tableOf
  cases value.table? <;> simp [eq_comm]

/-- A value is read as a table exactly if it is one. -/
theorem tableOf_eq_ok_iff {value : Toml.Value} {table : Toml.Table} :
    tableOf value = .ok table ↔ value.table? = some table := by
  unfold tableOf
  cases value.table? <;> simp

/-- The value of a key is read exactly if it is there. -/
theorem valueOf_eq_ok_iff {table : Toml.Table} {key : String} {value : Toml.Value} :
    valueOf table key = .ok value ↔ table.lookup key = some value := by
  unfold valueOf
  cases table.lookup key <;> simp

/-- The value of a key is refused exactly if it is missing. -/
theorem valueOf_eq_error_iff {table : Toml.Table} {key : String} :
    valueOf table key = .error error ↔ table.lookup key = none ∧ error = .missingKey key := by
  unfold valueOf
  cases table.lookup key <;> simp [eq_comm]

/-- The table of the tools is refused exactly if it is none. -/
theorem toolsOf_eq_error_iff {value : Toml.Value} :
    toolsOf value = .error error ↔ value.table? = none ∧ error = .wrongType := by
  rw [toolsOf, bind_pure_comp]
  exact map_eq_error_iff.trans tableOf_eq_error_iff

/-- The value of a language is refused exactly for a cause of its own. -/
theorem languageOf_eq_error_iff {key : String} {value : Toml.Value} :
    languageOf key value = .error error ↔ LanguageRefused value error := by
  simp only [languageOf, bind_eq_error_iff, tableOf_eq_error_iff, tableOf_eq_ok_iff,
    valueOf_eq_error_iff, valueOf_eq_ok_iff]
  constructor
  · rintro (⟨hnone, rfl⟩ | ⟨entries, hentries, ⟨hopening, rfl⟩ | ⟨opening, hopening,
      ⟨hclosing, rfl⟩ | ⟨_, _, hread⟩⟩⟩)
    · exact .notTable hnone
    · exact .noOpening hentries hopening
    · exact .noClosing hentries hopening hclosing
    · cases hread
  · rintro (hnone | ⟨hentries, hopening⟩ | ⟨hentries, hopening, hclosing⟩)
    · exact .inl ⟨hnone, rfl⟩
    · exact .inr ⟨_, hentries, .inl ⟨hopening, rfl⟩⟩
    · exact .inr ⟨_, hentries, .inr ⟨_, hopening, .inl ⟨hclosing, rfl⟩⟩⟩

/-- A language is read exactly if nothing is wrong with its value. -/
theorem exists_languageOf_iff {key : String} {value : Toml.Value} :
    (∃ entry, languageOf key value = .ok entry) ↔ ∀ error, ¬LanguageRefused value error :=
  exists_ok_iff fun _ => languageOf_eq_error_iff

/-- Languages are refused exactly for the cause of the first that is refused. -/
theorem languagesOf_eq_error_iff {languages : List LanguageEntry} {entries : Toml.Table} :
    languagesOf languages entries = .error error ↔
      ∃ before key value after, entries = before ++ (key, value) :: after ∧
        (∀ earlier ∈ before, ∀ error, ¬LanguageRefused earlier.2 error) ∧
        LanguageRefused value error := by
  induction entries generalizing languages with
  | nil => simp [languagesOf]
  | cons entry rest ih =>
    obtain ⟨key, value⟩ := entry
    simp only [languagesOf, bind_eq_error_iff, languageOf_eq_error_iff, ih]
    constructor
    · rintro (hvalue | ⟨read, hread, before, other, found, after, rfl, hbefore, hfound⟩)
      · exact ⟨[], key, value, rest, rfl, List.forall_mem_nil _, hvalue⟩
      · exact ⟨(key, value) :: before, other, found, after, rfl,
          List.forall_mem_cons.mpr ⟨exists_languageOf_iff.mp ⟨read, hread⟩, hbefore⟩, hfound⟩
    · rintro ⟨before, other, found, after, hentries, hbefore, hfound⟩
      cases before with
      | nil =>
        obtain ⟨hentry, -⟩ := List.cons.inj hentries
        obtain ⟨-, rfl⟩ := Prod.mk.inj hentry
        exact .inl hfound
      | cons first before =>
        obtain ⟨rfl, rfl⟩ := List.cons.inj hentries
        obtain ⟨hfirst, hbefore⟩ := List.forall_mem_cons.mp hbefore
        obtain ⟨read, hread⟩ := exists_languageOf_iff.mpr hfirst
        exact .inr ⟨read, hread, before, other, found, after, rfl, hbefore, hfound⟩

/-- A value has entries exactly if it is the table of them. -/
theorem table?_eq_some_iff {value : Toml.Value} {entries : Toml.Table} :
    value.table? = some entries ↔ value = .table entries := by
  cases value <;> simp [Toml.Value.table?]

/-- A value has a text exactly if it is that text. -/
theorem text?_eq_some_iff {value : Toml.Value} {text : String} :
    value.text? = some text ↔ value = .text text := by
  cases value <;> simp [Toml.Value.text?]

/-- Settings that are a table are refused exactly if they give a kind of module that is no text or
neither of the two there are. -/
theorem assemblyOf_table_eq_error_iff {path : String} {settings : Toml.Table} :
    assemblyOf path (.table settings) = .error error ↔
      ∃ value, settings.lookup "output_type" = some value ∧
        (value.text? = none ∧ error = .wrongType ∨
          ∃ written, value.text? = some written ∧
            String.ofList (Text.lower written.toList) ∉ ["exe", "dll"] ∧
            error = .outputType path (String.ofList (Text.lower written.toList))) := by
  have htable : tableOf (.table settings) = .ok settings := rfl
  simp only [assemblyOf, htable, valueOr, bind, Except.bind, pure, Except.pure, throw, throwThe,
    MonadExceptOf.throw]
  cases settings.lookup "output_type" with
  | none =>
    have hdefault : String.ofList (Text.lower "exe".toList) = "exe" := by decide
    simp only [Option.getD_none, Toml.Value.text?, hdefault]
    simp
  | some value =>
    simp only [Option.getD_some, Option.some.injEq, exists_eq_left']
    cases value.text? with
    | none => simp [eq_comm]
    | some written =>
      simp only [Option.some.injEq, exists_eq_left', reduceCtorEq, false_and, false_or,
        List.mem_cons, List.not_mem_nil, or_false, not_or]
      split <;> simp_all [eq_comm]

/-- The settings of the assembler are refused exactly for a cause of their own. -/
theorem assemblyOf_eq_error_iff {path : String} {table : Toml.Table} {value : Toml.Value}
    (hvalue : table.lookup "assemble" = some value) :
    assemblyOf path value = .error error ↔ AssemblyRefused path table error := by
  constructor
  · intro hrefused
    cases htable : value.table? with
    | none =>
      rcases of_bind_error hrefused with hread | ⟨settings, hread, -⟩
      · obtain ⟨-, rfl⟩ := tableOf_eq_error_iff.mp hread
        exact .notTable hvalue htable
      · exact absurd (tableOf_eq_ok_iff.mp hread) (htable ▸ nofun)
    | some settings =>
      obtain rfl := table?_eq_some_iff.mp htable
      obtain ⟨kind, hkind, ⟨hnone, rfl⟩ | ⟨written, hwritten, hunknown, rfl⟩⟩ :=
        assemblyOf_table_eq_error_iff.mp hrefused
      · exact .kindNotText hvalue hkind hnone
      · obtain rfl := text?_eq_some_iff.mp hwritten
        exact .unknownKind hvalue hkind hunknown
  · rintro (⟨hother, hnone⟩ | ⟨hother, hkind, hnone⟩ | ⟨hother, hkind, hunknown⟩)
    · obtain rfl := Option.some.inj (hvalue.symm.trans hother)
      exact bind_eq_error_iff.mpr (.inl (tableOf_eq_error_iff.mpr ⟨hnone, rfl⟩))
    · obtain rfl := Option.some.inj (hvalue.symm.trans hother)
      exact assemblyOf_table_eq_error_iff.mpr ⟨_, hkind, .inl ⟨hnone, rfl⟩⟩
    · obtain rfl := Option.some.inj (hvalue.symm.trans hother)
      exact assemblyOf_table_eq_error_iff.mpr ⟨_, hkind, .inr ⟨_, rfl, hunknown, rfl⟩⟩

/-! ## Reading as a whole -/

variable {path : String} {table : Toml.Table}

/-- Reads a part of a configuration from its value, if it has one. -/
def partOf {α : Type} (fallback : α) (read : Toml.Value → Except ConfigError α) :
    Option Toml.Value → Except ConfigError α
  | none => .ok fallback
  | some value => read value

/-- A part is refused exactly if it has a value that is. -/
theorem partOf_eq_error_iff {α : Type} {fallback : α} {read : Toml.Value → Except ConfigError α}
    {value? : Option Toml.Value} :
    partOf fallback read value? = .error error ↔
      ∃ value, value? = some value ∧ read value = .error error := by
  cases value? <;> simp [partOf]

/-- A configuration is read in three parts. -/
theorem ofTable_eq_parts (path : String) (table : Toml.Table) :
    ofTable path table = do
      let tools ← partOf {} toolsOf (table.lookup "toolchain")
      let assembly ← partOf {} (assemblyOf path) (table.lookup "assemble")
      let languages ← partOf [] (fun value => tableOf value >>= languagesOf [])
        (table.lookup "languages")
      return { tools, assembly, languages } := by
  have hlanguages : tableOf (valueOr table "languages" (.table [])) >>= languagesOf [] =
      partOf [] (fun value => tableOf value >>= languagesOf []) (table.lookup "languages") := by
    unfold valueOr
    cases table.lookup "languages" <;> rfl
  rw [← hlanguages, ofTable]
  simp only [bind_assoc]
  cases table.lookup "toolchain" <;> cases table.lookup "assemble" <;> rfl

/-- The tools of a table are refused exactly for a cause of their own. -/
theorem toolsPart_eq_error_iff :
    partOf {} toolsOf (table.lookup "toolchain") = .error error ↔ ToolsRefused table error := by
  rw [partOf_eq_error_iff]
  constructor
  · rintro ⟨value, hvalue, hrefused⟩
    obtain ⟨hnone, rfl⟩ := toolsOf_eq_error_iff.mp hrefused
    exact .notTable hvalue hnone
  · rintro ⟨hvalue, hnone⟩
    exact ⟨_, hvalue, toolsOf_eq_error_iff.mpr ⟨hnone, rfl⟩⟩

/-- The settings of the assembler in a table are refused exactly for a cause of their own. -/
theorem assemblyPart_eq_error_iff :
    partOf {} (assemblyOf path) (table.lookup "assemble") = .error error ↔
      AssemblyRefused path table error := by
  rw [partOf_eq_error_iff]
  constructor
  · rintro ⟨value, hvalue, hrefused⟩
    exact (assemblyOf_eq_error_iff hvalue).mp hrefused
  · intro hrefused
    obtain ⟨value, hvalue⟩ : ∃ value, table.lookup "assemble" = some value := by
      cases hrefused <;> exact ⟨_, ‹_›⟩
    exact ⟨value, hvalue, (assemblyOf_eq_error_iff hvalue).mpr hrefused⟩

/-- The languages of a table are refused exactly for a cause of their own. -/
theorem languagesPart_eq_error_iff :
    partOf [] (fun value => tableOf value >>= languagesOf []) (table.lookup "languages")
        = .error error ↔
      LanguagesRefused table error := by
  simp only [partOf_eq_error_iff, bind_eq_error_iff, tableOf_eq_error_iff, tableOf_eq_ok_iff,
    languagesOf_eq_error_iff]
  constructor
  · rintro ⟨value, hvalue, ⟨hnone, rfl⟩ |
      ⟨entries, hentries, before, key, found, after, rfl, hbefore, hfound⟩⟩
    · exact .notTable hvalue hnone
    · exact .language (hvalue.trans (congrArg some (table?_eq_some_iff.mp hentries))) hbefore hfound
  · rintro (⟨hvalue, hnone⟩ | ⟨hentries, hbefore, hfound⟩)
    · exact ⟨_, hvalue, .inl ⟨hnone, rfl⟩⟩
    · exact ⟨_, hentries, .inr ⟨_, rfl, _, _, _, _, rfl, hbefore, hfound⟩⟩

/-- A table is refused exactly for the cause of its first part that is refused. -/
theorem ofTable_eq_error_iff : ofTable path table = .error error ↔ Refused path table error := by
  simp only [ofTable_eq_parts, bind_eq_error_iff, toolsPart_eq_error_iff, assemblyPart_eq_error_iff,
    languagesPart_eq_error_iff]
  have htools : (∃ tools, partOf {} toolsOf (table.lookup "toolchain") = .ok tools) ↔
      ∀ error, ¬ToolsRefused table error := exists_ok_iff fun _ => toolsPart_eq_error_iff
  have hassembly : (∃ assembly, partOf {} (assemblyOf path) (table.lookup "assemble")
        = .ok assembly) ↔
      ∀ error, ¬AssemblyRefused path table error := exists_ok_iff fun _ => assemblyPart_eq_error_iff
  constructor
  · rintro (hrefused | ⟨_, htools', hrefused | ⟨_, hassembly', hrefused | ⟨_, _, hread⟩⟩⟩)
    · exact .tools hrefused
    · exact .assembly (htools.mp ⟨_, htools'⟩) hrefused
    · exact .languages (htools.mp ⟨_, htools'⟩) (hassembly.mp ⟨_, hassembly'⟩) hrefused
    · cases hread
  · rintro (hrefused | ⟨hnone, hrefused⟩ | ⟨hnone, hnone', hrefused⟩)
    · exact .inl hrefused
    · obtain ⟨_, hread⟩ := htools.mpr hnone
      exact .inr ⟨_, hread, .inl hrefused⟩
    · obtain ⟨_, hread⟩ := htools.mpr hnone
      obtain ⟨_, hread'⟩ := hassembly.mpr hnone'
      exact .inr ⟨_, hread, .inr ⟨_, hread', .inl hrefused⟩⟩

/-- Bytes are a configuration exactly if they have a table that is one. -/
theorem ofBytes_eq_ok_iff [Host] {bytes : List UInt8} {config : Config} :
    ofBytes path bytes = .ok config ↔
      ∃ text table, Text.Utf8.decode bytes = .ok text ∧ Toml.read text = .ok table ∧
        ofTable path table = .ok config := by
  constructor
  · intro hread
    obtain ⟨text, htext, hread⟩ := of_bind_ok hread
    obtain ⟨table, htable, hconfig⟩ := of_bind_ok hread
    exact ⟨text, table, of_mapError_ok htext, of_mapError_ok htable, hconfig⟩
  · rintro ⟨text, table, htext, htable, hconfig⟩
    rw [ofBytes, htext]
    exact (congrArg (fun read => Except.mapError ConfigError.grammar read >>= ofTable _)
      htable).trans hconfig

/-- Bytes are no configuration exactly for a cause of their own. -/
theorem ofBytes_eq_error_iff [Host] {bytes : List UInt8} :
    ofBytes path bytes = .error error ↔ Unusable path bytes error := by
  simp only [ofBytes, bind_eq_error_iff, mapError_eq_error_iff, ofTable_eq_error_iff]
  constructor
  · rintro (⟨malformed, htext, rfl⟩ |
      ⟨text, htext, ⟨fault, htable, rfl⟩ | ⟨table, htable, hrefused⟩⟩)
    · exact .encoding htext
    · exact .grammar (of_mapError_ok htext) htable
    · exact .refused (of_mapError_ok htext) (of_mapError_ok htable) hrefused
  · rintro (htext | ⟨htext, htable⟩ | ⟨htext, htable, hrefused⟩)
    · exact .inl ⟨_, htext, rfl⟩
    · exact .inr ⟨_, congrArg (Except.mapError _) htext, .inl ⟨_, htable, rfl⟩⟩
    · exact .inr ⟨_, congrArg (Except.mapError _) htext,
        .inr ⟨_, congrArg (Except.mapError _) htable, hrefused⟩⟩

end ILGraft.Config
