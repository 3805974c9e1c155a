import ILGraft.Injection
import ILGraft.Proofs.MarkerText
import ILGraft.Proofs.SourceMarks
import Mathlib.Data.List.Induction
import Mathlib.Data.List.Pairwise

/-!
# Snippets in the order of their discovery

The blocks of one source file are found from its top to its bottom, with a marker line on either
side of each. Source files are read once each, so the snippets of a collection that share a file
come in the order of their ranges, with a gap between them.
-/

namespace ILGraft

/-- Of two snippets of one file, the first ends before the second begins, with room for the two
marker lines between them. -/
def Snippet.Precedes (one other : Snippet) : Prop :=
  one.file = other.file → one.last + 2 < other.first

namespace Document

/-- The source files of a document are the files that its markers switch to, each once. -/
theorem sourceFiles_eq (document : Document) :
    document.sourceFiles = (document.markers.filterMap Marker.file?).eraseDups := by
  rw [sourceFiles, markers, List.filterMap_map]
  rfl

/-- A source file of a document is one that some marker switches to. -/
theorem mem_sourceFiles {document : Document} {file : String} :
    file ∈ document.sourceFiles ↔ ∃ marker ∈ document.markers, marker.file? = some file := by
  rw [sourceFiles_eq, List.mem_eraseDups, List.mem_filterMap]

/-- The name of a source file is not empty and holds no quote, since it was read between two. -/
theorem path_of_mem_sourceFiles {document : Document} {file : String}
    (hfile : file ∈ document.sourceFiles) : file.toList ≠ [] ∧ '\'' ∉ file.toList := by
  obtain ⟨marker, hmarker, hswitch⟩ := mem_sourceFiles.mp hfile
  obtain ⟨line, _, rfl⟩ := List.mem_map.mp hmarker
  have hread := line.reads
  rw [Marker.read] at hread
  cases hnumber : Marker.lineNumber line.text.toList with
  | error fault => simp only [hnumber, Bind.bind, Except.bind, reduceCtorEq] at hread
  | ok number =>
    simp only [hnumber, Bind.bind, Except.bind, Pure.pure, Except.pure, Except.ok.injEq] at hread
    rw [← hread] at hswitch
    obtain ⟨path, hpath, rfl⟩ := Option.map_eq_some_iff.mp hswitch
    rw [String.toList_ofList]
    exact Marker.path_of_fileSwitch? hpath

private theorem nodup_eraseDups (files : List String) : files.eraseDups.Nodup := by
  induction files using List.reverseRecOn with
  | nil => exact List.nodup_nil
  | append_singleton files file ih =>
    rw [List.eraseDups_append]
    by_cases hmem : file ∈ files
    · simpa [List.removeAll, hmem] using ih
    · have hnew : ∀ other ∈ files, other ≠ file := fun other hother heq => hmem (heq ▸ hother)
      have hlast : [file].eraseDups = [file] := rfl
      simpa [List.removeAll, hmem, List.nodup_append, ih, hlast] using hnew

/-- No source file is listed twice. -/
theorem nodup_sourceFiles (document : Document) : document.sourceFiles.Nodup :=
  nodup_eraseDups _

end Document

namespace Block

/-- The lowest line at which the next snippet can begin. -/
private def lowestStart (number : Nat) : Option Unclosed → Nat
  | none => number + 1
  | some block => block.first

private theorem scanFrom_ranges {file : String} {language : Language} {number : Nat}
    {block? : Option Unclosed} {lines : List String} {snippets : List Snippet}
    (hblock : ∀ block ∈ block?, block.first + block.seen.length = number)
    (hok : scanFrom file language number block? lines = .ok snippets) :
    (∀ snippet ∈ snippets, snippet.file = file ∧
        (lowestStart number block? : Int) ≤ snippet.first) ∧
      snippets.Pairwise fun one other => one.last + 2 < other.first := by
  induction lines generalizing number block? snippets with
  | nil =>
    cases block? with
    | none =>
      cases hok
      exact ⟨List.forall_mem_nil _, .nil⟩
    | some block => cases hok
  | cons line rest ih =>
    cases block? with
    | none =>
      rw [scanFrom] at hok
      split at hok
      · obtain ⟨hall, hordered⟩ := ih (by rintro _ ⟨⟩; rfl) hok
        exact ⟨hall, hordered⟩
      · obtain ⟨hall, hordered⟩ := ih (by rintro _ ⟨⟩) hok
        refine ⟨fun snippet hmem => ?_, hordered⟩
        obtain ⟨hfile, hfirst⟩ := hall snippet hmem
        simp only [lowestStart] at hfirst ⊢
        exact ⟨hfile, by omega⟩
    | some block =>
      have hnumber := hblock block rfl
      rw [scanFrom] at hok
      split at hok
      · cases hmore : scanFrom file language (number + 1) none rest with
        | error fault => simp only [hmore, Functor.map, Except.map, reduceCtorEq] at hok
        | ok more =>
          simp only [hmore, Functor.map, Except.map, Except.ok.injEq] at hok
          subst hok
          obtain ⟨hall, hordered⟩ := ih (by rintro _ ⟨⟩) hmore
          simp only [lowestStart] at hall
          refine ⟨fun snippet hmem => ?_, List.pairwise_cons.mpr ⟨fun other hother => ?_, hordered⟩⟩
          · rcases List.mem_cons.mp hmem with rfl | hlater
            · exact ⟨rfl, Int.le_refl _⟩
            · obtain ⟨hfile, hfirst⟩ := hall snippet hlater
              refine ⟨hfile, ?_⟩
              simp only [lowestStart]
              omega
          · have hfirst := (hall other hother).2
            simp only [Unclosed.close]
            omega
      · split at hok
        · cases hok
        · have hseen : ∀ longer ∈ some { block with seen := line :: block.seen },
              longer.first + longer.seen.length = number + 1 := by
            rintro _ ⟨⟩
            simp only [List.length_cons]
            omega
          have hrest := ih hseen hok
          exact hrest

/-- The snippets of a source text belong to its file, begin behind its first line, and come in the
order of their ranges. -/
theorem scan_ranges {text file : String} {language : Language} {snippets : List Snippet}
    (hok : scan text file language = .ok snippets) :
    (∀ snippet ∈ snippets, snippet.file = file ∧ 0 < snippet.first) ∧
      snippets.Pairwise fun one other => one.last + 2 < other.first := by
  obtain ⟨hall, hordered⟩ := scanFrom_ranges (by rintro _ ⟨⟩) hok
  refine ⟨fun snippet hmem => ?_, hordered⟩
  obtain ⟨hfile, hfirst⟩ := hall snippet hmem
  simp only [lowestStart] at hfirst
  exact ⟨hfile, by omega⟩

end Block

/-- The language whose markers a file is searched for, if they are of use: C# if nothing is known
of the extension. -/
def LanguageTable.scannedAs (table : LanguageTable) (file : String) : Option Language :=
  match table.choose file with
  | .known language => some language
  | .unusable => none
  | .unknown => some Language.csharp

namespace Collection

/-- The snippets that a reader's answer for a file leads to; none if it leads to a stop. -/
def blocksOf (table : LanguageTable) (read : Reader) (file : String) : List Snippet :=
  match ofAnswer table file (read file) with
  | .ok collection => collection.snippets
  | .error _ => []

/-- The warnings for all files of which the language is a guess, file by file. -/
def guesses (table : LanguageTable) (files : List String) : List Diagnostic :=
  (files.filter fun file => table.choose file = .unknown).map guessedLanguage

/-- The warnings for the first file come first. -/
theorem guesses_cons (table : LanguageTable) (file : String) (rest : List String) :
    guesses table (file :: rest) = guesses table [file] ++ guesses table rest := by
  simp only [guesses]
  rw [← List.map_append, ← List.filter_append, List.singleton_append]

/-- A text is scanned for the language of its file, if there is one to scan for. -/
theorem ofAnswer_text (table : LanguageTable) (file text : String) :
    ofAnswer table file (.ok text) =
      match table.scannedAs file with
      | none => .error .markersNotText
      | some language => (scanAs language file text).map fun snippets =>
          ⟨snippets, guesses table [file]⟩ := by
  have hload : Source.load file (.ok text) = .ok text := rfl
  simp only [ofAnswer, hload, LanguageTable.scannedAs, guesses, List.filter_singleton]
  cases table.choose file with
  | unusable => rfl
  | known language => cases scanAs language file text <;> rfl
  | unknown => cases scanAs Language.csharp file text <;> rfl

/-- A file is collected exactly if a text was read and scanned. -/
theorem ofAnswer_eq_ok_iff {table : LanguageTable} {file : String}
    {answer : Except Unreadable String} {collection : Collection} :
    ofAnswer table file answer = .ok collection ↔
      (∃ text language, answer = .ok text ∧ table.scannedAs file = some language ∧
        Block.scan text file language = .ok collection.snippets) ∧
      collection.warnings = guesses table [file] := by
  cases answer with
  | error reason =>
    refine iff_of_false (fun hok => ?_) (by simp)
    cases reason <;> cases hok
  | ok text =>
    rw [ofAnswer_text]
    cases hlanguage : table.scannedAs file with
    | none => simp
    | some language =>
      cases hscan : Block.scan text file language with
      | error block => simp [scanAs, hscan, Except.mapError, Except.map]
      | ok snippets =>
        obtain ⟨found, warnings⟩ := collection
        simp [scanAs, hscan, Except.mapError, Except.map, eq_comm]

/-- The first of some files is collected before the others. -/
theorem ofFiles_cons (table : LanguageTable) (read : Reader) (file : String)
    (rest : List String) :
    ofFiles (m := Id) table read (file :: rest) =
      (ofAnswer table file (read file)).bind fun first =>
        Except.map (fun more : Collection =>
            ⟨first.snippets ++ more.snippets, first.warnings ++ more.warnings⟩)
          (ofFiles (m := Id) table read rest) := by
  rw [ofFiles]
  dsimp only [Bind.bind, Pure.pure]
  cases ofAnswer table file (read file) with
  | error stop => rfl
  | ok first => cases ofFiles (m := Id) table read rest <;> rfl

/-- Files that are collected have all been read and scanned, and their snippets come file by
file. -/
theorem ofFiles_ok {table : LanguageTable} {read : Reader} {files : List String}
    {collection : Collection}
    (hok : ofFiles (m := Id) table read files = .ok collection) :
    (∀ file ∈ files, ∃ text language, read file = .ok text ∧
        table.scannedAs file = some language ∧
        Block.scan text file language = .ok (blocksOf table read file)) ∧
      collection.snippets = files.flatMap (blocksOf table read) := by
  induction files generalizing collection with
  | nil =>
    cases hok
    exact ⟨List.forall_mem_nil _, rfl⟩
  | cons file rest ih =>
    rw [ofFiles_cons] at hok
    cases hfirst : ofAnswer table file (read file) with
    | error stop => simp only [hfirst, Except.bind, reduceCtorEq] at hok
    | ok first =>
      cases hmore : ofFiles (m := Id) table read rest with
      | error stop => simp only [hfirst, hmore, Except.bind, Except.map, reduceCtorEq] at hok
      | ok more =>
        rw [hfirst, hmore] at hok
        cases hok
        have hblocks : blocksOf table read file = first.snippets := by rw [blocksOf, hfirst]
        obtain ⟨hall, hsnippets⟩ := ih hmore
        refine ⟨fun other hother => ?_, ?_⟩
        · rcases List.mem_cons.mp hother with rfl | hlater
          · rw [hblocks]
            exact (ofAnswer_eq_ok_iff.mp hfirst).1
          · exact hall other hlater
        · rw [List.flatMap_cons, hblocks, ← hsnippets]

end Collection

/-- What is known of the snippets collected for a document, whatever the sources hold. -/
structure Discovered (document : Document) (snippets : List Snippet) : Prop where
  /-- The document names the file of every snippet. -/
  named : ∀ snippet ∈ snippets, snippet.file ∈ document.sourceFiles
  /-- No snippet begins before its source file does. -/
  first_pos : ∀ snippet ∈ snippets, 0 < snippet.first
  /-- The snippets of one file come in the order of their ranges. -/
  ordered : snippets.Pairwise Snippet.Precedes

/-- Collected snippets are discovered in order. -/
theorem Collection.discovered {document : Document} {table : LanguageTable} {read : Reader}
    {collection : Collection}
    (hok : Collection.ofDocument (m := Id) document table read = .ok collection) :
    Discovered document collection.snippets := by
  obtain ⟨hscanned, hsnippets⟩ := Collection.ofFiles_ok hok
  have hranges (file : String) (hfile : file ∈ document.sourceFiles) :=
    let ⟨_, _, _, _, hscan⟩ := hscanned file hfile
    Block.scan_ranges hscan
  rw [hsnippets]
  refine ⟨fun snippet hmem => ?_, fun snippet hmem => ?_, ?_⟩
  · obtain ⟨file, hfile, hblock⟩ := List.mem_flatMap.mp hmem
    exact ((hranges file hfile).1 snippet hblock).1 ▸ hfile
  · obtain ⟨file, hfile, hblock⟩ := List.mem_flatMap.mp hmem
    exact ((hranges file hfile).1 snippet hblock).2
  · rw [List.pairwise_flatMap]
    have hordered (file : String) (hfile : file ∈ document.sourceFiles) :
        (blocksOf table read file).Pairwise Snippet.Precedes := by
      refine (hranges file hfile).2.imp ?_
      intro one other hlt _
      exact hlt
    refine ⟨hordered, ?_⟩
    refine List.Pairwise.imp_of_mem ?_ document.nodup_sourceFiles
    intro file other hfile hother hne one hone another hanother hsame
    rw [((hranges file hfile).1 one hone).1, ((hranges other hother).1 another hanother).1] at hsame
    exact absurd hsame hne

/-- No snippet is discovered twice. -/
theorem Discovered.nodup {document : Document} {snippets : List Snippet}
    (hdiscovered : Discovered document snippets) : snippets.Nodup :=
  hdiscovered.ordered.imp fun {one other} hprecedes heq => by
    subst heq
    have hlt := hprecedes rfl
    have hcovers := one.covers
    omega

/-- The first of some discovered snippets are discovered, and precede the others. -/
theorem Discovered.of_append {document : Document} {snippets more : List Snippet}
    (hdiscovered : Discovered document (snippets ++ more)) :
    Discovered document snippets ∧ ∀ one ∈ snippets, ∀ other ∈ more, one.Precedes other := by
  obtain ⟨hordered, -, hbetween⟩ := List.pairwise_append.mp hdiscovered.ordered
  refine ⟨⟨fun snippet hmem => ?_, fun snippet hmem => ?_, hordered⟩, hbetween⟩
  · exact hdiscovered.named snippet (List.mem_append_left _ hmem)
  · exact hdiscovered.first_pos snippet (List.mem_append_left _ hmem)

/-- Of two discovered snippets, one precedes the other. -/
theorem Discovered.apart {document : Document} {snippets : List Snippet}
    (hdiscovered : Discovered document snippets) {one other : Snippet} (hone : one ∈ snippets)
    (hother : other ∈ snippets) (hne : one ≠ other) :
    one.Precedes other ∨ other.Precedes one := by
  have hsymm : Std.Symm fun one other : Snippet => one.Precedes other ∨ other.Precedes one :=
    ⟨fun _ _ => Or.symm⟩
  have heither := hdiscovered.ordered.imp fun {one other} hprecedes =>
    (Or.inl hprecedes : one.Precedes other ∨ other.Precedes one)
  exact heither.forall hone hother hne

end ILGraft
