import ILGraft.Proofs.Discovery
import ILGraft.Proofs.MergeOutput

/-!
# Merging the same code

An injection depends on the texts of the files that the document names and on nothing else of the
machine. A merge command that finds the same code, the same sources and the same languages
therefore writes the same text, wherever these lie.
-/

namespace ILGraft

/-- Readers that agree on some files collect the same from them. -/
theorem Collection.ofFiles_congr {table : LanguageTable} {read other : Reader}
    {files : List String} (hsame : ∀ file ∈ files, read file = other file) :
    ofFiles (m := Id) table read files = ofFiles (m := Id) table other files := by
  induction files with
  | nil => rfl
  | cons file rest ih =>
    obtain ⟨hfile, hrest⟩ := List.forall_mem_cons.mp hsame
    rw [ofFiles_cons, ofFiles_cons, hfile, ih hrest]

/-- Readers that agree on the sources of a document lead to the same injection. -/
theorem Injection.run_congr {document : Document} {table : LanguageTable} {read other : Reader}
    (hsame : ∀ file ∈ document.sourceFiles, read file = other file) :
    run document read table = run document other table := by
  rw [run, run, Collection.ofDocument, Collection.ofDocument, Collection.ofFiles_congr hsame]

/-- A document that is read from a file is that of the text in it. -/
theorem ModuleRequest.of_readDocument {files : FileTree} {path : Path} {document : Document}
    (hdocument : readDocument files path = .ok document) :
    ∃ text, files.readText path = .ok text ∧ Document.ofText text = .ok document := by
  obtain ⟨text, htext, hlines⟩ := of_bind_ok hdocument
  exact ⟨text, of_mapError_ok htext, of_mapError_ok hlines⟩

namespace CommandLine

/-- A merge command on a tree that finds the code and the sources of other files there, uses the
same languages, and names the file to write. -/
structure Matches [Host] (tree : FileTree) (request : MergeRequest) (output : String)
    (languages : LanguageTable) (files : FileTree) (code : Path) (document : Document) : Prop where
  /-- The configuration has the same languages. -/
  languages : ∃ config, loadConfig tree request.config? = .ok config ∧
    config.languageTable = languages
  /-- The code is the same. -/
  code : tree.readText (Path.ofString request.input) = files.readText code
  /-- Every source that the document names reads the same. -/
  sources : ∀ file ∈ document.sourceFiles, Source.reader tree file = Source.reader files file
  /-- The file to write is named. -/
  target : request.output? = some output
  /-- Its name is not empty. -/
  named : output ≠ ""

/-- A merge command that finds the same code, sources and languages succeeds where the injection
does, and its output file then holds the text of the merged lines. -/
theorem merge_of_matches [Host] {tree files : FileTree} {request : MergeRequest} {output : String}
    {languages : LanguageTable} {code : Path} {document : Document}
    (hmatches : Matches tree request output languages files code document)
    (hdocument : ModuleRequest.readDocument files code = .ok document) {lines : List String}
    {placements : List Placement} {warnings : List Diagnostic}
    (hrun : Injection.run document (Source.reader files) languages =
      .ok (.merged lines placements warnings)) {written : FileTree}
    (hwrite : tree.write (Path.ofString output)
      (Text.Utf8.encode (Document.render lines).toList) = .ok written) :
    (merge tree request).1.exit = .success ∧ (merge tree request).2 = written ∧
      written.readBytes (Path.ofString output) =
        .ok (Text.Utf8.encode (Document.render lines).toList) := by
  obtain ⟨⟨config, hconfig, rfl⟩, hcode, hsources, htarget, hnamed⟩ := hmatches
  obtain ⟨text, hread, hlines⟩ := ModuleRequest.of_readDocument hdocument
  rw [← hcode] at hread
  rw [← Injection.run_congr hsources] at hrun
  have hmerges : MergesTo tree request lines :=
    ⟨placements, warnings, config, text, document, hconfig, hread, hlines, hrun⟩
  obtain ⟨count, hexit, hfiles⟩ := merge_of_mergesTo hmerges
  rw [htarget] at hexit hfiles
  rw [hexit, hfiles]
  rcases deliver_written hnamed lines count with
    ⟨other, hother, hsuccess, hleft⟩ | ⟨error, herror, -⟩
  · obtain rfl := Except.ok.inj (hwrite.symm.trans hother)
    exact ⟨hsuccess, hleft, FileTree.readBytes_of_write hwrite⟩
  · cases hwrite.symm.trans herror

end CommandLine

end ILGraft
