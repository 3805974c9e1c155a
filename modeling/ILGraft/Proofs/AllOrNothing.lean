import ILGraft.Proofs.MergedLayout
import ILGraft.Proofs.OpenBlocks

/-!
# All snippets or none

An injection fails for one of two causes. A source file may have no snippets to give, because it
cannot be read or because a block in it is left open; or a snippet may have no single place. One
such cause among many good files and snippets is enough to leave the document without any of them,
and what is reported is the first cause in the order in which files and snippets are found.
-/

namespace ILGraft

/-- A table in which the markers of every configured language are texts. -/
def LanguageTable.Usable (table : LanguageTable) : Prop :=
  ∀ entry ∈ table, entry.2 ≠ none

/-- With a usable table, every file is scanned for the markers of some language. -/
theorem LanguageTable.Usable.exists_scannedAs {table : LanguageTable} (husable : table.Usable)
    (file : String) : ∃ language, table.scannedAs file = some language := by
  have hbuiltIn : ∀ entry ∈ builtIn, entry.2 ≠ none := by decide
  have hall : ∀ entry ∈ table ++ builtIn, entry.2 ≠ none := fun entry hentry =>
    (List.mem_append.mp hentry).elim (husable entry) (hbuiltIn entry)
  rw [scannedAs, choose]
  cases hfound : (table ++ builtIn).lookup (extensionOf file) with
  | none => exact ⟨Language.csharp, rfl⟩
  | some language? =>
    cases language? with
    | some language => exact ⟨language, rfl⟩
    | none =>
      obtain ⟨before, after, hentries, -⟩ := List.lookup_eq_some_iff.mp hfound
      rw [hentries] at hall
      exact absurd rfl (hall _ (List.mem_append_right _ List.mem_cons_self))

/-- Why a source file has no snippets to give: the system refuses to read it, it is not UTF-8, or a
block in it is left open. -/
inductive SourceFault (table : LanguageTable) (read : Reader) (file : String) : Fault → Prop
  /-- The system refuses to read the file. -/
  | refused {reason : String} (hread : read file = .error (.refused reason)) :
      SourceFault table read file (.unavailable file reason)
  /-- The file is not UTF-8. -/
  | encoding {malformed : Text.Utf8.Malformed} (hread : read file = .error (.encoding malformed)) :
      SourceFault table read file (.unavailable file ("not valid UTF-8 ("
        ++ malformed.flaw.reason ++ " at byte " ++ Text.numeral malformed.offset ++ ")"))
  /-- A block of the file is left open; it is reported by its first line. -/
  | leftOpen {text : String} {language : Language} {before : List String}
      (hread : read file = .ok text) (hlanguage : table.scannedAs file = some language)
      (hopen : Block.LeftOpen language ((Text.lines text.toList).map String.ofList) before) :
      SourceFault table read file (.unterminated ⟨file, language, before.length + 2⟩)

/-- Why a snippet has no single place: no pair of marks straddles it, or several do. -/
inductive PlaceFault (document : Document) (snippet : Snippet) : Fault → Prop
  /-- No pair of marks straddles the snippet. -/
  | unplaced (hpairs : document.straddling snippet = []) :
      PlaceFault document snippet (.unplaced snippet)
  /-- Several pairs of marks straddle the snippet; the first two are reported. -/
  | ambiguous {first second : Mark × Mark} {others : List (Mark × Mark)}
      (hpairs : document.straddling snippet = first :: second :: others) :
      PlaceFault document snippet (.ambiguous snippet first.2.position second.2.position)

/-- The code of what is reported of a source file tells whether it could be read. -/
theorem SourceFault.codes {table : LanguageTable} {read : Reader} {file : String} {fault : Fault}
    (hfault : SourceFault table read file fault) :
    (fault.diagnostic.code = "E205" ↔ ∃ cause, read file = .error cause) ∧
      (fault.diagnostic.code = "E204" ↔ ∃ text, read file = .ok text) := by
  have hcode : fault.diagnostic.code = fault.report.kind.code := rfl
  rw [hcode]
  cases hfault with
  | refused hread => simp [hread, Fault.report, FaultKind.code]
  | encoding hread => simp [hread, Fault.report, FaultKind.code]
  | leftOpen hread => simp [hread, Fault.report, FaultKind.code]

/-- The code of what is reported of a snippet tells how many pairs straddle it. -/
theorem PlaceFault.codes {document : Document} {snippet : Snippet} {fault : Fault}
    (hfault : PlaceFault document snippet fault) :
    (fault.diagnostic.code = "E202" ↔ 2 ≤ (document.straddling snippet).length) ∧
      (fault.diagnostic.code = "E203" ↔ document.straddling snippet = []) := by
  have hcode : fault.diagnostic.code = fault.report.kind.code := rfl
  rw [hcode]
  cases hfault with
  | unplaced hpairs => simp [hpairs, Fault.report, FaultKind.code]
  | ambiguous hpairs => simp [hpairs, Fault.report, FaultKind.code]

/-- A snippet is refused exactly for its place. -/
theorem Placement.locate_error_iff {document : Document} {snippet : Snippet} {fault : Fault} :
    locate document snippet = .error fault ↔ PlaceFault document snippet fault := by
  rw [locate_eq_outcome]
  constructor
  · intro hfault
    match hpairs : document.straddling snippet, hfault with
    | [], hfault =>
      cases hfault
      exact .unplaced hpairs
    | first :: second :: others, hfault =>
      cases hfault
      exact .ambiguous hpairs
  · intro hfault
    cases hfault with
    | unplaced hpairs => rw [hpairs]; rfl
    | ambiguous hpairs => rw [hpairs]; rfl

/-- Snippets are placed all together, or up to the first of them that has no single place. -/
theorem Placement.locateAll_cases (document : Document) (snippets : List Snippet) :
    (∃ placements, locateAll document snippets = .ok placements ∧
      ∀ snippet ∈ snippets, (document.straddling snippet).length = 1) ∨
    ∃ before snippet after fault, snippets = before ++ snippet :: after ∧
      (∀ earlier ∈ before, (document.straddling earlier).length = 1) ∧
      PlaceFault document snippet fault ∧ locateAll document snippets = .error fault := by
  have hsingle {placed : List Snippet} {placements : List Placement}
      (hok : locateAll document placed = .ok placements) :
      ∀ snippet ∈ placed, (document.straddling snippet).length = 1 := by
    obtain ⟨hsnippets, hsited⟩ := locateAll_ok hok
    intro snippet hmem
    obtain ⟨placement, hplacement, rfl⟩ := List.mem_map.mp (hsnippets.symm ▸ hmem)
    obtain ⟨pair, hpair, -⟩ := hsited placement hplacement
    rw [hpair, List.length_singleton]
  cases hlocated : locateAll document snippets with
  | ok placements => exact .inl ⟨placements, rfl, hsingle hlocated⟩
  | error fault =>
    obtain ⟨before, snippet, after, placements, hsnippets, hbefore, hfault⟩ :=
      locateAll_error hlocated
    exact .inr ⟨before, snippet, after, fault, hsnippets, hsingle hbefore,
      locate_error_iff.mp hfault, rfl⟩

namespace Collection

variable {table : LanguageTable} {read : Reader}

/-- A source file that can be read is scanned for the markers of its language, and only a warning
may come with its snippets. -/
theorem ofAnswer_eq_scan {file : String} {language : Language}
    (hlanguage : table.scannedAs file = some language) (text : String) :
    ∃ warnings : List Diagnostic, (∀ warning ∈ warnings, warning.severity = .warning) ∧
      ofAnswer table file (.ok text) =
        ((Block.scan text file language).mapError fun block => .fault (.unterminated block)).map
          fun snippets => ⟨snippets, warnings⟩ := by
  refine ⟨guesses table [file], fun warning hwarning => ?_, ?_⟩
  · obtain ⟨guessed, -, rfl⟩ := List.mem_map.mp hwarning
    rfl
  · rw [ofAnswer_text, hlanguage]
    rfl

/-- A source file with a fault ends the collection with it. -/
theorem ofAnswer_of_fault {file : String} {fault : Fault}
    (hfault : SourceFault table read file fault) :
    ofAnswer table file (read file) = .error (.fault fault) := by
  cases hfault with
  | refused hread => rw [hread]; rfl
  | encoding hread => rw [hread]; rfl
  | @leftOpen text language before hread hlanguage hopen =>
    obtain ⟨warnings, -, hanswer⟩ := ofAnswer_eq_scan hlanguage text
    rw [hread, hanswer, Block.scan_error_iff.mpr ⟨_, hopen, rfl⟩]
    rfl

/-- A source file is collected unless it has a fault, and only a warning may come with it. -/
theorem ofAnswer_cases (husable : table.Usable) {file : String}
    (hnull : read file ≠ .error .nullInName) :
    (∃ collection, ofAnswer table file (read file) = .ok collection ∧
      ∀ warning ∈ collection.warnings, warning.severity = .warning) ∨
    ∃ fault, SourceFault table read file fault := by
  cases hread : read file with
  | error cause =>
    cases cause with
    | refused reason => exact .inr ⟨_, .refused hread⟩
    | encoding malformed => exact .inr ⟨_, .encoding hread⟩
    | nullInName => exact absurd hread hnull
  | ok text =>
    obtain ⟨language, hlanguage⟩ := husable.exists_scannedAs file
    cases hscan : Block.scan text file language with
    | ok snippets =>
      obtain ⟨warnings, hwarnings, hanswer⟩ := ofAnswer_eq_scan hlanguage text
      rw [hscan] at hanswer
      exact .inl ⟨_, hanswer, hwarnings⟩
    | error block =>
      obtain ⟨before, hopen, rfl⟩ := Block.scan_error_iff.mp hscan
      exact .inr ⟨_, .leftOpen hread hlanguage hopen⟩

/-- Files are collected all together, or up to the first of them that has a fault. -/
theorem ofFiles_cases (husable : table.Usable) {files : List String}
    (hnull : ∀ file ∈ files, read file ≠ .error .nullInName) :
    (∃ collection, ofFiles (m := Id) table read files = .ok collection ∧
      (∀ file ∈ files, ∀ fault, ¬SourceFault table read file fault) ∧
      ∀ warning ∈ collection.warnings, warning.severity = .warning) ∨
    ∃ before file after fault, files = before ++ file :: after ∧
      (∀ earlier ∈ before, ∀ other, ¬SourceFault table read earlier other) ∧
      SourceFault table read file fault ∧
      ofFiles (m := Id) table read files = .error (.fault fault) := by
  induction files with
  | nil =>
    exact .inl ⟨⟨[], []⟩, rfl, List.forall_mem_nil _, List.forall_mem_nil _⟩
  | cons file rest ih =>
    obtain ⟨hfile, hrest⟩ := List.forall_mem_cons.mp hnull
    rw [ofFiles_cons]
    rcases ofAnswer_cases husable hfile with ⟨first, hfirst, hwarning⟩ | ⟨fault, hfault⟩
    · have hsound : ∀ fault, ¬SourceFault table read file fault := fun fault hfault => by
        cases hfirst.symm.trans (ofAnswer_of_fault hfault)
      rw [hfirst, Except.bind]
      rcases ih hrest with ⟨more, hmore, hlater, hwarnings⟩ |
        ⟨before, other, after, fault, rfl, hbefore, hfault, hmore⟩
      · refine .inl ⟨_, by rw [hmore]; rfl, List.forall_mem_cons.mpr ⟨hsound, hlater⟩, ?_⟩
        exact fun warning hmem => (List.mem_append.mp hmem).elim (hwarning warning)
          (hwarnings warning)
      · exact .inr ⟨file :: before, other, after, fault, rfl,
          List.forall_mem_cons.mpr ⟨hsound, hbefore⟩, hfault, by rw [hmore]; rfl⟩
    · exact .inr ⟨[], file, rest, fault, rfl, List.forall_mem_nil _, hfault, by
        rw [ofAnswer_of_fault hfault]; rfl⟩

end Collection

namespace Injection

/-- What is said of an injection that fails with a fault: nothing was merged, and of all
diagnostics only the last one is an error, the one for the fault. -/
structure FailsWith (injection : Injection) (fault : Fault) : Prop where
  /-- There are no merged lines. -/
  lines : injection.lines = []
  /-- No snippet has a place. -/
  placements : injection.placements = []
  /-- The fault is the only error. -/
  errors : injection.diagnostics.filter (·.severity = .error) = [fault.diagnostic]
  /-- The fault comes last. -/
  last : injection.diagnostics.getLast? = some fault.diagnostic

/-- The fault of the first source file that has one, with what its code says about the file. -/
def FirstSourceFault (document : Document) (read : Reader) (table : LanguageTable)
    (fault : Fault) : Prop :=
  ∃ before file after, document.sourceFiles = before ++ file :: after ∧
    (∀ earlier ∈ before, ∀ other, ¬SourceFault table read earlier other) ∧
    SourceFault table read file fault ∧
    (fault.diagnostic.code = "E205" ↔ ∃ cause, read file = .error cause) ∧
    (fault.diagnostic.code = "E204" ↔ ∃ text, read file = .ok text)

/-- The fault of the first snippet without a single place, with what its code says about the pairs
of marks around the snippet. -/
def FirstPlaceFault (document : Document) (snippets : List Snippet) (fault : Fault) : Prop :=
  ∃ before snippet after, snippets = before ++ snippet :: after ∧
    (∀ earlier ∈ before, (document.straddling earlier).length = 1) ∧
    PlaceFault document snippet fault ∧
    (fault.diagnostic.code = "E202" ↔ 2 ≤ (document.straddling snippet).length) ∧
    (fault.diagnostic.code = "E203" ↔ document.straddling snippet = [])

variable {document : Document} {read : Reader} {table : LanguageTable}

private theorem failsWith_of_warnings {warnings : List Diagnostic}
    (hwarnings : ∀ warning ∈ warnings, warning.severity = .warning) {injection : Injection}
    {fault : Fault} (hlines : injection.lines = []) (hplacements : injection.placements = [])
    (hdiagnostics : injection.diagnostics = warnings ++ [fault.diagnostic]) :
    injection.FailsWith fault := by
  have hnone : warnings.filter (·.severity = .error) = [] := by
    rw [List.filter_eq_nil_iff]
    intro warning hwarning
    simp [hwarnings warning hwarning]
  refine ⟨hlines, hplacements, ?_, ?_⟩
  · rw [hdiagnostics, List.filter_append, hnone]
    rfl
  · rw [hdiagnostics, List.getLast?_concat]

/-- A run fails exactly if some source file has a fault or some snippet has no single place. It then
leaves nothing merged and reports the first fault: that of a source file, and no snippets, or else
that of a snippet, and all snippets. -/
theorem run_all_or_nothing (husable : table.Usable)
    (hreader : ∀ file ∈ document.sourceFiles, read file ≠ .error .nullInName) :
    ∃ injection, run document read table = .ok injection ∧
      (injection.succeeded = false ↔
        (∃ file ∈ document.sourceFiles, ∃ fault, SourceFault table read file fault) ∨
        ∃ snippet ∈ document.sourceFiles.flatMap (Collection.blocksOf table read),
          (document.straddling snippet).length ≠ 1) ∧
      (injection.succeeded = false → ∃ fault, injection.FailsWith fault ∧
        (FirstSourceFault document read table fault ∧ injection.snippets = [] ∨
          (∀ file ∈ document.sourceFiles, ∀ other, ¬SourceFault table read file other) ∧
          FirstPlaceFault document
            (document.sourceFiles.flatMap (Collection.blocksOf table read)) fault ∧
          injection.snippets =
            document.sourceFiles.flatMap (Collection.blocksOf table read))) := by
  rcases Collection.ofFiles_cases husable hreader with
    ⟨collection, hcollection, hsound, hwarnings⟩ |
    ⟨before, file, after, fault, hfiles, hbefore, hfault, hcollection⟩
  · have hsnippets := (Collection.ofFiles_ok hcollection).2
    have hnoFault : ¬∃ file ∈ document.sourceFiles, ∃ fault, SourceFault table read file fault := by
      rintro ⟨file, hfile, fault, hfault⟩
      exact hsound file hfile fault hfault
    rw [← hsnippets]
    rcases Placement.locateAll_cases document collection.snippets with
      ⟨placements, hplacements, hsingle⟩ |
      ⟨before, snippet, after, fault, hsplit, hbefore, hfault, hplacements⟩
    · refine ⟨_, run_of_locateAll hcollection hplacements, ?_, fun hfailed => nomatch hfailed⟩
      refine iff_of_false (fun hfailed => nomatch hfailed) (not_or.mpr ⟨hnoFault, ?_⟩)
      rintro ⟨snippet, hmem, hne⟩
      exact hne (hsingle snippet hmem)
    · have hrun : run document read table =
          .ok (.misplaced collection.snippets collection.warnings fault) := by
        simp only [run, Collection.ofDocument, hcollection, ofCollection, hplacements]
      have hmem : snippet ∈ collection.snippets :=
        hsplit ▸ List.mem_append_right _ List.mem_cons_self
      have hne : (document.straddling snippet).length ≠ 1 := by
        cases hfault with
        | unplaced hpairs => simp [hpairs]
        | ambiguous hpairs => simp [hpairs]
      refine ⟨_, hrun, iff_of_true rfl (.inr ⟨snippet, hmem, hne⟩), fun _ => ⟨fault, ?_, .inr ?_⟩⟩
      · exact failsWith_of_warnings hwarnings rfl rfl rfl
      · exact ⟨hsound, ⟨before, snippet, after, hsplit, hbefore, hfault, hfault.codes⟩, rfl⟩
  · have hrun : run document read table = .ok (.uncollected fault) := by
      simp only [run, Collection.ofDocument, hcollection]
    have hmem : file ∈ document.sourceFiles :=
      hfiles ▸ List.mem_append_right _ List.mem_cons_self
    refine ⟨_, hrun, iff_of_true rfl (.inl ⟨file, hmem, fault, hfault⟩),
      fun _ => ⟨fault, ?_, .inl ?_⟩⟩
    · exact failsWith_of_warnings (List.forall_mem_nil _) rfl rfl rfl
    · exact ⟨⟨before, file, after, hfiles, hbefore, hfault, hfault.codes⟩, rfl⟩

/-- A source with a block between the lines of two marks and a block behind them. -/
def blockBehind : Reader := fun _ =>
  .ok "a\n#if IL\nadd\n#endif\nb\nc\nd\ne\nf\n#if IL\nsub\n#endif\n"

/-- The block behind the marks keeps the other one from being merged. -/
theorem run_all_or_nothing_blockBehind :
    LanguageTable.Usable [] ∧
    (∀ file ∈ twoMarks.sourceFiles, blockBehind file ≠ .error .nullInName) ∧
    ∃ injection, run twoMarks blockBehind [] = .ok injection ∧ injection.succeeded = false ∧
      injection.lines = [] ∧ injection.placements = [] := by
  have husable : LanguageTable.Usable [] := List.forall_mem_nil _
  have hreader : ∀ file ∈ twoMarks.sourceFiles, blockBehind file ≠ .error .nullInName :=
    fun _ _ hanswer => nomatch hanswer
  obtain ⟨injection, hrun, hfails, hfailure⟩ := run_all_or_nothing husable hreader
  have hblock : (⟨"A.cs", 11, 11, ["sub"], by decide⟩ : Snippet) ∈
      twoMarks.sourceFiles.flatMap (Collection.blocksOf [] blockBehind) := by decide +kernel
  have hfailed : injection.succeeded = false :=
    hfails.mpr (.inr ⟨_, hblock, by decide +kernel⟩)
  obtain ⟨fault, hwith, -⟩ := hfailure hfailed
  exact ⟨husable, hreader, injection, hrun, hfailed, hwith.lines, hwith.placements⟩

end Injection

end ILGraft
