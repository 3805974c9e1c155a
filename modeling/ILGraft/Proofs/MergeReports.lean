import ILGraft.Proofs.AllOrNothing
import ILGraft.Proofs.MarkerGrammar
import ILGraft.Proofs.MergeOutput
import ILGraft.Proofs.RenderedDocuments
import ILGraft.Proofs.RunFailures
import ILGraft.Proofs.WrittenPaths

/-!
# What merge commands report

A merge command that prints reports nearly all that can go wrong on the stream of complaints: code
that is not UTF-8, the first source that cannot be read or scanned, the first snippet without a
single place. Two things it does not report. A line number of too many digits ends it, although a
marker that cannot be read is otherwise passed over, and so does a source whose name holds a null
character, although sources that cannot be read otherwise become faults.
-/

namespace ILGraft

/-! ## Lines that cannot be read -/

namespace Marker

/-- A line that gives its source line in so many digits, and in more than can be read. -/
def HasLongNumber (line : String) (digits : Nat) : Prop :=
  ∃ chars, lineDigits? line.toList = some chars ∧ chars.length = digits ∧
    Text.maxNumeralDigits < digits

/-- The marker of a line cannot be read exactly if its number is too long. -/
theorem read_eq_error_iff {line : String} {fault : Text.LongNumeral} :
    read line = .error fault ↔
      ∃ digits, HasLongNumber line digits ∧ fault = .unreadable digits := by
  have hread : read line = .error fault ↔ lineNumber line.toList = .error fault := by
    rw [read, bind_pure_comp]
    exact map_eq_error_iff
  rw [hread, lineNumber]
  cases hchars : lineDigits? line.toList with
  | none => simp [HasLongNumber, hchars]
  | some chars =>
    obtain ⟨-, -, -, hdigits, -⟩ := lineDigits?_eq_some_iff.mp hchars
    have hlength := (Text.forall₂_filterMap_digitValue? hdigits.2).length_eq
    have hlong : (∃ digits, HasLongNumber line digits ∧ fault = .unreadable digits) ↔
        Text.maxNumeralDigits < chars.length ∧ fault = .unreadable chars.length := by
      simp [HasLongNumber, hchars]
    rw [hlong]
    simp only [Text.readNumeral, ← hlength]
    by_cases hshort : chars.length ≤ Text.maxNumeralDigits
    · simp only [if_pos hshort, Bind.bind, Except.bind, Pure.pure, Except.pure, reduceCtorEq,
        false_iff, not_and]
      omega
    · simp only [if_neg hshort, Bind.bind, Except.bind, Except.error.injEq]
      exact ⟨fun hfault => ⟨by omega, hfault.symm⟩, fun hboth => hboth.2.symm⟩

end Marker

namespace MarkedLine

/-- A line is refused exactly if its number is too long. -/
theorem ofText_eq_error_iff {line : String} {fault : Text.LongNumeral} :
    ofText line = .error fault ↔
      ∃ digits, Marker.HasLongNumber line digits ∧ fault = .unreadable digits := by
  rw [← Marker.read_eq_error_iff, ofText]
  split
  · next marker hread =>
    have hsame : Marker.read line ≠ .error fault := by
      rw [hread]
      simp only [ne_eq, reduceCtorEq, not_false_eq_true]
    simp only [reduceCtorEq, hsame]
  · next other hread => rw [hread, Except.error.injEq, Except.error.injEq]

/-- A line is taken in exactly if it is legible. -/
theorem exists_ofText_iff {line : String} :
    (∃ marked, ofText line = .ok marked) ↔ Document.Legible line := by
  have hlegible : Document.Legible line ↔ ∀ digits, ¬Marker.HasLongNumber line digits := by
    simp [Document.Legible, Marker.HasLongNumber]
  rw [hlegible]
  cases hline : ofText line with
  | error fault =>
    obtain ⟨digits, hlong, -⟩ := ofText_eq_error_iff.mp hline
    simp only [reduceCtorEq, exists_false, false_iff]
    exact fun hnone => hnone digits hlong
  | ok marked =>
    refine iff_of_true ⟨marked, rfl⟩ fun digits hlong => ?_
    rw [ofText_eq_error_iff.mpr ⟨digits, hlong, rfl⟩] at hline
    cases hline

end MarkedLine

/-- Code is not taken in exactly if a line of it is not legible; the first of them is what is
said. -/
theorem Document.ofText_eq_error_iff {text : String} {fault : Text.LongNumeral} :
    ofText text = .error fault ↔
      ∃ before line after, (linesOfText text).map admitLine = before ++ line :: after ∧
        (∀ earlier ∈ before, Legible earlier) ∧
        ∃ digits, Marker.HasLongNumber line digits ∧ fault = .unreadable digits := by
  have hlines : ofText text = .error fault ↔
      ((linesOfText text).map admitLine).mapM MarkedLine.ofText = .error fault := by
    rw [ofText, ofLines, bind_pure_comp]
    exact map_eq_error_iff
  rw [hlines, mapM_eq_error_iff]
  simp only [MarkedLine.exists_ofText_iff, MarkedLine.ofText_eq_error_iff]

/-! ## Sources that cannot be collected -/

/-- A source file whose name can be handed to the system and which has no fault. -/
def SourceSound (table : LanguageTable) (read : Reader) (file : String) : Prop :=
  read file ≠ .error .nullInName ∧ ∀ fault, ¬SourceFault table read file fault

namespace Collection

variable {table : LanguageTable} {read : Reader}

/-- Files are collected one by one and put together. -/
theorem ofFiles_eq_mapM (files : List String) :
    ofFiles (m := Id) table read files =
      Except.map (fun collections : List Collection => ⟨collections.flatMap Collection.snippets,
          collections.flatMap Collection.warnings⟩)
        (files.mapM fun file => ofAnswer table file (read file)) := by
  induction files with
  | nil => rfl
  | cons file rest ih =>
    rw [ofFiles_cons, ih, List.mapM_cons]
    cases ofAnswer table file (read file) with
    | error stop => rfl
    | ok first =>
      cases rest.mapM fun file => ofAnswer table file (read file) <;> rfl

/-- A source file is collected exactly if its name can be used and it has no fault. -/
theorem exists_ofAnswer_iff (husable : table.Usable) (file : String) :
    (∃ collection, ofAnswer table file (read file) = .ok collection) ↔
      SourceSound table read file := by
  constructor
  · rintro ⟨collection, hcollection⟩
    refine ⟨fun hnull => ?_, fun fault hfault => ?_⟩
    · rw [hnull] at hcollection
      cases hcollection
    · rw [ofAnswer_of_fault hfault] at hcollection
      cases hcollection
  · rintro ⟨hnull, hsound⟩
    rcases ofAnswer_cases husable hnull with ⟨collection, hcollection, -⟩ | ⟨fault, hfault⟩
    · exact ⟨collection, hcollection⟩
    · exact absurd hfault (hsound fault)

/-- A source file that is not collected has a fault, or its name cannot be used. -/
theorem ofAnswer_error_cases (husable : table.Usable) {file : String} {stop : Source.Stop}
    (hstop : ofAnswer table file (read file) = .error stop) :
    (∃ fault, stop = .fault fault ∧ SourceFault table read file fault) ∨
      stop = .nullInName ∧ read file = .error .nullInName := by
  by_cases hnull : read file = .error .nullInName
  · rw [hnull] at hstop
    exact .inr ⟨(Except.error.inj hstop).symm, hnull⟩
  · rcases ofAnswer_cases husable hnull with ⟨collection, hcollection, -⟩ | ⟨fault, hfault⟩
    · rw [hcollection] at hstop
      cases hstop
    · rw [ofAnswer_of_fault hfault] at hstop
      exact .inl ⟨fault, (Except.error.inj hstop).symm, hfault⟩

/-- A collection ends with what ends it at the first source file that is not collected. -/
theorem ofFiles_eq_error_iff (husable : table.Usable) {files : List String} {stop : Source.Stop} :
    ofFiles (m := Id) table read files = .error stop ↔
      ∃ before file after, files = before ++ file :: after ∧
        (∀ earlier ∈ before, SourceSound table read earlier) ∧
        ofAnswer table file (read file) = .error stop := by
  have hsteps : ofFiles (m := Id) table read files = .error stop ↔
      (files.mapM fun file => ofAnswer table file (read file)) = .error stop := by
    rw [ofFiles_eq_mapM]
    exact map_eq_error_iff
  rw [hsteps, mapM_eq_error_iff]
  simp only [exists_ofAnswer_iff husable]

end Collection

namespace Injection

variable {document : Document} {table : LanguageTable} {read : Reader}

/-- No injection comes of a document exactly if the name of a source cannot be used and no source
in front of it has a fault. -/
theorem run_eq_error_iff (husable : table.Usable) {abort : Abort} :
    run document read table = .error abort ↔
      abort = .nullInName ∧ ∃ before file after, document.sourceFiles = before ++ file :: after ∧
        (∀ earlier ∈ before, SourceSound table read earlier) ∧ read file = .error .nullInName := by
  have hfiles (stop : Source.Stop) :
      Collection.ofFiles (m := Id) table read document.sourceFiles = .error stop ↔
        ∃ before file after, document.sourceFiles = before ++ file :: after ∧
          (∀ earlier ∈ before, SourceSound table read earlier) ∧
          Collection.ofAnswer table file (read file) = .error stop :=
    Collection.ofFiles_eq_error_iff husable
  constructor
  · intro hrun
    cases hcollection : Collection.ofDocument (m := Id) document table read with
    | ok collection =>
      cases hplacements : Placement.locateAll document collection.snippets with
      | error fault => simp [run, hcollection, ofCollection, hplacements] at hrun
      | ok placements => simp [run_of_locateAll hcollection hplacements] at hrun
    | error stop =>
      obtain ⟨before, file, after, hsplit, hbefore, hanswer⟩ := (hfiles stop).mp hcollection
      rcases Collection.ofAnswer_error_cases husable hanswer with
        ⟨fault, rfl, -⟩ | ⟨rfl, hnull⟩
      · simp [run, hcollection] at hrun
      · simp only [run, hcollection, Except.error.injEq] at hrun
        exact ⟨hrun.symm, before, file, after, hsplit, hbefore, hnull⟩
  · rintro ⟨rfl, before, file, after, hsplit, hbefore, hnull⟩
    have hcollection : Collection.ofDocument (m := Id) document table read =
        .error .nullInName :=
      (hfiles _).mpr ⟨before, file, after, hsplit, hbefore, by rw [hnull]; rfl⟩
    simp only [run, hcollection]

end Injection

/-! ## Rendered errors -/

namespace Renderer

/-- The text of a diagnostic begins with its header. -/
theorem header_prefix_render (tree : FileTree) (palette : Palette) (cache : LineCache)
    (diagnostic : Diagnostic) :
    (header palette diagnostic).toList <+: (render tree palette cache diagnostic).1.toList := by
  rw [render, String.toList_intercalate, List.cons_append, List.map_cons]
  cases hlater : ((showLabels tree palette diagnostic.severity cache diagnostic.labels).1 ++
      diagnostic.notes.map (showNote palette)).map String.toList with
  | nil => simp only [List.intercalate_singleton, List.prefix_refl]
  | cons second rest =>
    rw [List.intercalate_cons_cons, List.append_assoc]
    exact List.prefix_append _ _

/-- Every diagnostic is rendered, and its text begins with its header. -/
theorem exists_mem_renderAll (tree : FileTree) (palette : Palette) (cache : LineCache)
    {diagnostics : List Diagnostic} {diagnostic : Diagnostic} (hmem : diagnostic ∈ diagnostics) :
    ∃ text ∈ (renderAll tree palette cache diagnostics).1,
      (header palette diagnostic).toList <+: text.toList := by
  induction diagnostics generalizing cache with
  | nil => cases hmem
  | cons first rest ih =>
    rcases List.mem_cons.mp hmem with rfl | hlater
    · exact ⟨_, List.mem_cons_self, header_prefix_render tree palette cache diagnostic⟩
    · obtain ⟨text, htext, hheader⟩ := ih (render tree palette cache first).2 hlater
      exact ⟨text, List.mem_cons_of_mem _ htext, hheader⟩

end Renderer

namespace CommandLine

/-- Something said on the stream of complaints that arrives there with the word for an error in
front. -/
def Echo.IsError [Host] (echo : Echo) : Prop :=
  echo.stream = .errors ∧ "error".toList <+: echo.shown.toList

/-- A line with the word for an error in front arrives with it. -/
theorem isError_say [Host] (hkeeps : Host.KeepsText) {line : String}
    (hline : "error".toList <+: line.toList) :
    (say .errors line).IsError := by
  obtain ⟨rest, hrest⟩ := hline
  have htext : (say .errors line).text.toList = "error".toList ++ (rest ++ ['\n']) := by
    rw [say, String.toList_append, ← hrest, List.append_assoc]
    rfl
  refine ⟨rfl, ?_⟩
  rw [Echo.shown]
  split
  · rw [htext]
    exact List.prefix_append _ _
  · rw [htext, hkeeps.strip_append _ _ (by decide), String.toList_ofList (l := _ ++ _)]
    exact List.prefix_append _ _

/-- An error among diagnostics is said as one. -/
theorem exists_isError_showDiagnostics [Host] (hkeeps : Host.KeepsText)
    (hpiped : Host.isTerminal .errors = false) (files : FileTree) {diagnostics : List Diagnostic}
    {diagnostic : Diagnostic} (hmem : diagnostic ∈ diagnostics)
    (herror : diagnostic.severity = .error) :
    ∃ echo ∈ showDiagnostics files diagnostics, echo.IsError := by
  obtain ⟨text, htext, hheader⟩ :=
    Renderer.exists_mem_renderAll files Palette.plain [] hmem
  have hword : "error".toList <+: (Renderer.header Palette.plain diagnostic).toList := by
    simp only [Renderer.header, herror, Severity.word, Palette.plain, String.toList_append,
      List.append_assoc]
    exact List.prefix_append _ _
  rw [showDiagnostics, complaintPalette_eq_plain hpiped]
  exact ⟨say .errors text, List.mem_map.mpr ⟨text, htext, rfl⟩,
    isError_say hkeeps (hword.trans hheader)⟩

/-! ## Ends of commands -/

/-- What ends a merge command without a report: in its code a line number of too many digits, or
the name of a source with a null character in it, with no fault in front of it. -/
inductive Unreported (table : LanguageTable) (read : Reader) (bytes : List UInt8) : Abort → Prop
  /-- The number of a line is too long, and the lines in front of it are legible. -/
  | longNumber {code : List Char} {before : List String} {line : String} {after : List String}
      {digits : Nat} (hcode : Text.ofFile bytes = .ok code)
      (hlines : (Document.linesOfText (String.ofList code)).map Document.admitLine =
        before ++ line :: after)
      (hbefore : ∀ earlier ∈ before, Document.Legible earlier)
      (hlong : Marker.HasLongNumber line digits) :
      Unreported table read bytes (.longNumeral (.unreadable digits))
  /-- The name of a source holds a null character, and the sources in front of it have no fault. -/
  | nullInName {code : List Char} {document : Document} {before : List String} {file : String}
      {after : List String} (hcode : Text.ofFile bytes = .ok code)
      (hdocument : Document.ofText (String.ofList code) = .ok document)
      (hfiles : document.sourceFiles = before ++ file :: after)
      (hbefore : ∀ earlier ∈ before, SourceSound table read earlier)
      (hnull : '\x00' ∈ file.toList) : Unreported table read bytes .nullInName

/-- A source that code names and that cannot be read although its name can be used, while the
sources in front of it have no fault. -/
def FirstUnreadable (table : LanguageTable) (read : Reader) (bytes : List UInt8) (file : String) :
    Prop :=
  ∃ code document before after cause, Text.ofFile bytes = .ok code ∧
    Document.ofText (String.ofList code) = .ok document ∧
    document.sourceFiles = before ++ file :: after ∧
    (∀ earlier ∈ before, SourceSound table read earlier) ∧
    '\x00' ∉ file.toList ∧ read file = .error cause

/-- What is said of a source that cannot be read. -/
def unreadableReport (file reason : String) : String :=
  "error[E205]: can't read source file '" ++ file ++ "': " ++ reason
    ++ "\n  = note: the module must be processed on a machine that has its sources"

/-- The header of that is its first line. -/
theorem header_unavailable (file reason : String) :
    Renderer.header Palette.plain (Fault.unavailable file reason).diagnostic =
      "error[E205]: can't read source file '" ++ file ++ "': " ++ reason := by
  have hfront : "error" ++ "[" ++ "E205" ++ "]" ++ ": " ++ "can't read source file '" =
      "error[E205]: can't read source file '" := by
    decide +kernel
  simp only [Renderer.header, Palette.plain, Fault.diagnostic, FaultReport.diagnostic,
    Fault.report, Severity.word, FaultKind.code, String.empty_append, String.append_empty,
    ← String.append_assoc]
  rw [hfront]

/-- The diagnostic of a source that cannot be read is said as that. -/
theorem showDiagnostics_unavailable [Host] (hpiped : Host.isTerminal .errors = false)
    (files : FileTree) (file reason : String) :
    showDiagnostics files [(Fault.unavailable file reason).diagnostic] =
      [say .errors (unreadableReport file reason)] := by
  have hlabels : (Fault.unavailable file reason).diagnostic.labels = [] := by
    simp only [Fault.diagnostic, FaultReport.diagnostic, Fault.report, if_true]
  have hnotes : (Fault.unavailable file reason).diagnostic.notes =
      ["the module must be processed on a machine that has its sources"] := rfl
  have hnote : "\n" ++ Renderer.showNote Palette.plain
      "the module must be processed on a machine that has its sources" =
        "\n  = note: the module must be processed on a machine that has its sources" := by
    decide +kernel
  have htwo (first second : String) :
      "\n".intercalate [first, second] = first ++ ("\n" ++ second) := by
    rw [← String.toList_inj]
    simp
  simp only [showDiagnostics, complaintPalette_eq_plain hpiped, Renderer.renderAll,
    Renderer.render, Renderer.showLabels, hlabels, hnotes, header_unavailable, List.cons_append,
    List.nil_append, List.map_cons, List.map_nil, htwo]
  rw [hnote]
  rfl

section Ends

variable {files : FileTree} {request : MergeRequest} {config : Config} {bytes : List UInt8}
  {code : List Char} {document : Document}

/-- Code that is not UTF-8 is reported. -/
theorem merge_of_malformed [Host] (hkeeps : Host.KeepsText)
    (hconfig : loadConfig files request.config? = .ok config)
    (hread : files.readBytes (Path.ofString request.input) = .ok bytes)
    {malformed : Text.Utf8.Malformed} (hcode : Text.ofFile bytes = .error malformed) :
    (merge files request).1.exit = .failure ∧
      ∃ echo ∈ (merge files request).1.transcript, echo.IsError := by
  have htext : files.readText (Path.ofString request.input) = .error (.encoding malformed) := by
    rw [FileTree.readText_of_readBytes hread, hcode]
    rfl
  simp only [merge, hconfig, htext, List.mem_singleton, exists_eq_left, true_and]
  apply isError_say hkeeps
  simp only [String.toList_append, List.append_assoc]
  exact ⟨_, rfl⟩

/-- Code that is UTF-8 has its text. -/
theorem readText_of_code (hread : files.readBytes (Path.ofString request.input) = .ok bytes)
    (hcode : Text.ofFile bytes = .ok code) :
    files.readText (Path.ofString request.input) = .ok (String.ofList code) := by
  rw [FileTree.readText_of_readBytes hread, hcode]
  rfl

/-- A line number of too many digits ends the command. -/
theorem merge_of_longNumber [Host] (hconfig : loadConfig files request.config? = .ok config)
    (hread : files.readBytes (Path.ofString request.input) = .ok bytes)
    (hcode : Text.ofFile bytes = .ok code) {fault : Text.LongNumeral}
    (hdocument : Document.ofText (String.ofList code) = .error fault) :
    (merge files request).1.exit = .aborted (.longNumeral fault) := by
  simp only [merge, hconfig, readText_of_code hread hcode, hdocument]

/-- A run that cannot go on ends the command. -/
theorem merge_of_abort [Host] (hconfig : loadConfig files request.config? = .ok config)
    (hread : files.readBytes (Path.ofString request.input) = .ok bytes)
    (hcode : Text.ofFile bytes = .ok code)
    (hdocument : Document.ofText (String.ofList code) = .ok document) {abort : Abort}
    (hrun : Injection.run document (Source.reader files) config.languageTable = .error abort) :
    (merge files request).1.exit = .aborted abort := by
  simp only [merge, hconfig, readText_of_code hread hcode, hdocument, hrun]

/-- An injection that has merged nothing is reported. -/
theorem merge_of_failed [Host] (hkeeps : Host.KeepsText)
    (hpiped : Host.isTerminal .errors = false) {injection : Injection}
    (hinjects : Injects files request injection) (hfailed : injection.succeeded = false) :
    (merge files request).1.exit = .failure ∧
      ∃ echo ∈ (merge files request).1.transcript, echo.IsError := by
  obtain ⟨diagnostic, hdiagnostic, herror⟩ := Injection.exists_error hfailed
  obtain ⟨echo, hecho, hsaid⟩ :=
    exists_isError_showDiagnostics hkeeps hpiped files hdiagnostic herror
  rw [merge_of_injects hinjects]
  simp only [finishMerge, hfailed, Bool.false_eq_true, if_false, true_and]
  exact ⟨echo, List.mem_append_right _ hecho, hsaid⟩

/-- A source that cannot be read is all that is said of an injection. -/
theorem merge_of_unreadable [Host] (hpiped : Host.isTerminal .errors = false)
    {file reason : String}
    (hinjects : Injects files request (.uncollected (.unavailable file reason))) :
    (merge files request).1.exit = .failure ∧
      (merge files request).1.transcript = [say .errors (unreadableReport file reason)] := by
  have hnothing (stream : Stream) :
      (if request.verbose then showFound stream [] [] else []) = [] := by
    split <;> rfl
  rw [merge_of_injects hinjects]
  simp only [finishMerge, Injection.succeeded, Injection.snippets, Injection.placements,
    Injection.diagnostics, Bool.false_eq_true, if_false, hnothing, List.nil_append,
    showDiagnostics_unavailable hpiped, and_self]

/-- An injection without a file to write ends in success or is reported. -/
theorem merge_succeeds_or_reports [Host] (hkeeps : Host.KeepsText)
    (hpiped : Host.isTerminal .errors = false) (hprints : request.output? = none)
    {injection : Injection} (hinjects : Injects files request injection) :
    (merge files request).1.exit = .success ∨ (merge files request).1.exit = .failure ∧
      ∃ echo ∈ (merge files request).1.transcript, echo.IsError := by
  cases injection with
  | merged lines placements warnings =>
    refine .inl ((merge_succeeds_iff ?_).mpr ⟨lines, placements, warnings, hinjects⟩)
    rw [hprints]
    rfl
  | misplaced => exact .inr (merge_of_failed hkeeps hpiped hinjects rfl)
  | uncollected => exact .inr (merge_of_failed hkeeps hpiped hinjects rfl)

/-- A command without a file to write ends without a report exactly for one of the two causes. -/
theorem exit_eq_aborted_iff [Host] (hkeeps : Host.KeepsText)
    (hpiped : Host.isTerminal .errors = false) (hprints : request.output? = none)
    (hconfig : loadConfig files request.config? = .ok config)
    (husable : config.languageTable.Usable)
    (hread : files.readBytes (Path.ofString request.input) = .ok bytes) {abort : Abort} :
    (merge files request).1.exit = .aborted abort ↔
      Unreported config.languageTable (Source.reader files) bytes abort := by
  constructor
  · intro hexit
    cases hcode : Text.ofFile bytes with
    | error malformed =>
      rw [(merge_of_malformed hkeeps hconfig hread hcode).1] at hexit
      cases hexit
    | ok code =>
      cases hdocument : Document.ofText (String.ofList code) with
      | error fault =>
        obtain ⟨before, line, after, hlines, hbefore, digits, hlong, rfl⟩ :=
          Document.ofText_eq_error_iff.mp hdocument
        rw [merge_of_longNumber hconfig hread hcode hdocument] at hexit
        cases hexit
        exact .longNumber hcode hlines hbefore hlong
      | ok document =>
        cases hrun : Injection.run document (Source.reader files) config.languageTable with
        | error other =>
          rw [merge_of_abort hconfig hread hcode hdocument hrun] at hexit
          cases hexit
          obtain ⟨rfl, before, file, after, hfiles, hbefore, hnull⟩ :=
            (Injection.run_eq_error_iff husable).mp hrun
          exact .nullInName hcode hdocument hfiles hbefore
            ((Source.reader_eq_nullInName_iff files file).mp hnull)
        | ok injection =>
          have hinjects : Injects files request injection :=
            ⟨config, _, document, hconfig, readText_of_code hread hcode, hdocument, hrun⟩
          rcases merge_succeeds_or_reports hkeeps hpiped hprints hinjects with
            hsuccess | ⟨hfailure, -⟩
          · rw [hsuccess] at hexit
            cases hexit
          · rw [hfailure] at hexit
            cases hexit
  · intro hunreported
    cases hunreported with
    | longNumber hcode hlines hbefore hlong =>
      refine merge_of_longNumber hconfig hread hcode (Document.ofText_eq_error_iff.mpr ?_)
      exact ⟨_, _, _, hlines, hbefore, _, hlong, rfl⟩
    | nullInName hcode hdocument hfiles hbefore hnull =>
      refine merge_of_abort hconfig hread hcode hdocument
        ((Injection.run_eq_error_iff husable).mpr ⟨rfl, _, _, _, hfiles, hbefore, ?_⟩)
      exact (Source.reader_eq_nullInName_iff files _).mpr hnull

/-- A command without a file to write that does not end so succeeds or reports an error. -/
theorem merge_reports [Host] (hkeeps : Host.KeepsText)
    (hpiped : Host.isTerminal .errors = false) (hprints : request.output? = none)
    (hconfig : loadConfig files request.config? = .ok config)
    (hread : files.readBytes (Path.ofString request.input) = .ok bytes)
    (hends : ∀ abort, (merge files request).1.exit ≠ .aborted abort) :
    (merge files request).1.exit = .success ∨ (merge files request).1.exit = .failure ∧
      ∃ echo ∈ (merge files request).1.transcript, echo.IsError := by
  cases hcode : Text.ofFile bytes with
  | error malformed => exact .inr (merge_of_malformed hkeeps hconfig hread hcode)
  | ok code =>
    cases hdocument : Document.ofText (String.ofList code) with
    | error fault => exact absurd (merge_of_longNumber hconfig hread hcode hdocument) (hends _)
    | ok document =>
      cases hrun : Injection.run document (Source.reader files) config.languageTable with
      | error abort => exact absurd (merge_of_abort hconfig hread hcode hdocument hrun) (hends _)
      | ok injection =>
        exact merge_succeeds_or_reports hkeeps hpiped hprints
          ⟨config, _, document, hconfig, readText_of_code hread hcode, hdocument, hrun⟩

/-- The first source that cannot be read is reported as such. -/
theorem merge_reports_unreadable [Host] (hpiped : Host.isTerminal .errors = false)
    (hconfig : loadConfig files request.config? = .ok config)
    (husable : config.languageTable.Usable)
    (hread : files.readBytes (Path.ofString request.input) = .ok bytes) {file : String}
    (hfirst : FirstUnreadable config.languageTable (Source.reader files) bytes file) :
    ∃ reason, SourceFault config.languageTable (Source.reader files) file
        (.unavailable file reason) ∧
      (merge files request).1.exit = .failure ∧
      (merge files request).1.transcript = [say .errors (unreadableReport file reason)] := by
  obtain ⟨code, document, before, after, cause, hcode, hdocument, hfiles, hbefore, hnull, hcause⟩ :=
    hfirst
  obtain ⟨reason, hfault⟩ : ∃ reason, SourceFault config.languageTable (Source.reader files) file
      (.unavailable file reason) := by
    cases cause with
    | refused reason => exact ⟨reason, .refused hcause⟩
    | encoding malformed => exact ⟨_, .encoding hcause⟩
    | nullInName => exact absurd ((Source.reader_eq_nullInName_iff files file).mp hcause) hnull
  have hcollection : Collection.ofDocument (m := Id) document config.languageTable
      (Source.reader files) = .error (.fault (.unavailable file reason)) :=
    (Collection.ofFiles_eq_error_iff husable).mpr
      ⟨before, file, after, hfiles, hbefore, Collection.ofAnswer_of_fault hfault⟩
  have hrun : Injection.run document (Source.reader files) config.languageTable =
      .ok (.uncollected (.unavailable file reason)) := by
    simp only [Injection.run, hcollection]
  exact ⟨reason, hfault, merge_of_unreadable hpiped
    ⟨config, _, document, hconfig, readText_of_code hread hcode, hdocument, hrun⟩⟩

/-- A file that is there to be read can be read. -/
theorem readBytes_of_checkFile {name : String} (hcheck : checkFile files .read name = .ok ()) :
    ∃ bytes, files.readBytes (Path.ofString name) = .ok bytes := by
  cases hstatus : files.status name with
  | error error => cases error <;> simp only [checkFile, hstatus, reduceCtorEq] at hcheck
  | ok entry =>
    cases entry with
    | file bytes => exact ⟨bytes, FileTree.readBytes_of_status hstatus⟩
    | directory => simp only [checkFile, hstatus, reduceCtorEq] at hcheck

end Ends

/-- A merge command that is not told to write and complains to no terminal, with a configuration
of usable languages, can read its code. It ends without a report exactly for one of the two causes
above; otherwise it succeeds, or it fails and reports an error. The first source that cannot be
read is all that is reported. -/
theorem run_merge_reports_or_aborts [Host] (hkeeps : Host.KeepsText)
    (hpiped : Host.isTerminal .errors = false) {machine : Machine} {words : List String}
    {request : MergeRequest} {config : Config}
    (hparse : parse machine.files ("merge" :: words) = .ok (.merge request))
    (hprints : request.output? = none)
    (hconfig : loadConfig machine.files request.config? = .ok config)
    (husable : config.languageTable.Usable) :
    ∃ bytes, machine.files.readBytes (Path.ofString request.input) = .ok bytes ∧
      (∀ abort, (run machine ("merge" :: words)).exit = .aborted abort ↔
        Unreported config.languageTable (Source.reader machine.files) bytes abort) ∧
      ((∀ abort, ¬Unreported config.languageTable (Source.reader machine.files) bytes abort) →
        (run machine ("merge" :: words)).exit = .success ∨
          (run machine ("merge" :: words)).exit = .failure ∧
            ∃ echo ∈ (run machine ("merge" :: words)).transcript, echo.IsError) ∧
      ∀ file,
        FirstUnreadable config.languageTable (Source.reader machine.files) bytes file →
        ∃ reason, SourceFault config.languageTable (Source.reader machine.files) file
            (.unavailable file reason) ∧
          (run machine ("merge" :: words)).exit = .failure ∧
          (run machine ("merge" :: words)).transcript =
            [say .errors (unreadableReport file reason)] := by
  obtain ⟨merging, heq, hcheck⟩ := (of_parse_merge hparse).resolve_left (by simp)
  obtain rfl := Request.merge.inj heq
  obtain ⟨bytes, hread⟩ := readBytes_of_checkFile hcheck
  rw [run_of_parse_merge hparse]
  have haborted (abort : Abort) :
      (merge machine.files request).1.exit = .aborted abort ↔
        Unreported config.languageTable (Source.reader machine.files) bytes abort :=
    exit_eq_aborted_iff hkeeps hpiped hprints hconfig husable hread
  refine ⟨bytes, hread, haborted, fun hreported => ?_, fun file hfirst => ?_⟩
  · exact merge_reports hkeeps hpiped hprints hconfig hread fun abort hexit =>
      hreported abort ((haborted abort).mp hexit)
  · exact merge_reports_unreadable hpiped hconfig husable hread hfirst

/-- A machine with a disassembly of which nothing but the text is given. -/
def machineWith (code : String) : Machine :=
  { oneBlockMachine with
    files := ⟨["w"], [(["w"], .directory), (["w", "M.il"], .file (Text.Utf8.encode code.toList))]⟩ }

/-- A source that is missing is reported. -/
theorem run_merge_reports_or_aborts_missing :
    (run (machineWith ".line 1,1 : 1,1 'A.cs'\n") ["merge", "M.il"]).exit = .failure ∧
      ∃ echo ∈ (run (machineWith ".line 1,1 : 1,1 'A.cs'\n") ["merge", "M.il"]).transcript,
        echo.IsError := by
  have hparse : parse (machineWith ".line 1,1 : 1,1 'A.cs'\n").files ["merge", "M.il"] =
      .ok (.merge ⟨"M.il", none, false, none⟩) := by
    decide +kernel
  have hconfig : loadConfig (machineWith ".line 1,1 : 1,1 'A.cs'\n").files none = .ok {} := by
    rfl
  have hfailure : (run (machineWith ".line 1,1 : 1,1 'A.cs'\n") ["merge", "M.il"]).exit =
      .failure := by
    decide +kernel
  obtain ⟨bytes, -, haborted, hreports, -⟩ :=
    run_merge_reports_or_aborts Host.collecting_stripsSequences.toKeepsText rfl hparse rfl hconfig
      (List.forall_mem_nil _)
  have hreported := hreports fun abort hunreported => by
    have hexit := (haborted abort).mpr hunreported
    rw [hfailure] at hexit
    cases hexit
  rcases hreported with hsuccess | hfails
  · rw [hfailure] at hsuccess
    cases hsuccess
  · exact hfails

/-- A source whose name holds a null character ends a command without a word, and a marker whose
number has 4301 digits cannot be read. -/
theorem exists_unreported_merge :
    (run (machineWith ".line 1,1 : 1,1 'a\x00.cs'\n") ["merge", "M.il"]).exit =
        .aborted .nullInName ∧
      (run (machineWith ".line 1,1 : 1,1 'a\x00.cs'\n") ["merge", "M.il"]).transcript = [] ∧
      ∃ line, Marker.read line = .error (.unreadable 4301) := by
  refine ⟨by decide +kernel, by decide +kernel, ?_⟩
  let digits := List.replicate 4301 '1'
  have hdigits : Marker.IsDigits digits := by
    refine ⟨List.ne_nil_of_length_pos (by rw [List.length_replicate]; decide), fun c hc => ?_⟩
    rw [List.eq_of_mem_replicate hc]
    decide
  refine ⟨String.ofList ('.' :: ("line ".toList ++ (digits ++ (",".toList ++ [])))), ?_⟩
  refine Marker.read_eq_error_iff.mpr ⟨4301, ⟨digits, ?_, List.length_replicate, by decide⟩, rfl⟩
  rw [String.toList_ofList]
  exact Marker.lineDigits?_directive hdigits []

end CommandLine

end ILGraft
