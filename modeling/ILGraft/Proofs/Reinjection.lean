import ILGraft.Proofs.MergedSearch
import ILGraft.Proofs.Results

/-!
# Injecting into merged lines again

Merged lines name the source files that the document names, so a second run finds the same
snippets. The statements of the first run stand where they would have to be injected again, each
behind a mark in the range of its snippet. So the second run stops at the first snippet that has
any, and nothing is injected twice.
-/

namespace ILGraft

namespace Marker

/-- The files that markers switch to, in order. -/
def switches (markers : List Marker) : List String :=
  markers.filterMap Marker.file?

/-- A file that holds is one that some marker has switched to, unless it is the one without a
name. -/
theorem lastFile_mem_switches {markers : List Marker} (hne : lastFile markers ≠ "") :
    lastFile markers ∈ switches markers := by
  rw [lastFile] at hne ⊢
  cases hlast : (markers.filterMap Marker.file?).getLast? with
  | none => exact absurd (hlast ▸ rfl) hne
  | some file => exact List.mem_of_getLast? hlast

end Marker

/-- Names that have come before add nothing to the names listed once. -/
private theorem eraseDups_append_append {files files' known more : List String}
    (hsame : files.eraseDups = files'.eraseDups) (hknown : ∀ file ∈ known, file ∈ files') :
    (files ++ known ++ more).eraseDups = (files' ++ more).eraseDups := by
  have hmem (file : String) : file ∈ files ↔ file ∈ files' := by
    rw [← List.mem_eraseDups, hsame, List.mem_eraseDups]
  have hnothing : known.removeAll files = [] := by
    rw [List.removeAll, List.filter_eq_nil_iff]
    intro file hfile
    simpa [hmem] using hknown file hfile
  have hmore : more.removeAll (files ++ known) = more.removeAll files' := by
    rw [List.removeAll, List.removeAll]
    refine List.filter_congr fun file _ => ?_
    have hboth : file ∈ files ++ known ↔ file ∈ files' := by
      rw [List.mem_append, hmem]
      exact ⟨fun h => h.elim id (hknown file), Or.inl⟩
    simp [hboth]
  rw [List.eraseDups_append, List.eraseDups_append, List.eraseDups_append, hnothing, hmore, hsame,
    List.eraseDups_nil, List.append_nil]

namespace Placed

variable {document : Document} {placements : List Placement}

/-- The file of a placed snippet is one that the document switches to in front of its place. -/
theorem file_mem_switches {front back : List Marker} (hplaced : Placed document placements)
    (hmarkers : document.markers = front ++ back) {placement : Placement}
    (hmem : placement ∈ placements) (hindex : placement.index = (front.length : Int)) :
    placement.snippet.file ∈ Marker.switches front := by
  obtain ⟨pair, hpair, hsite⟩ := hplaced.sited placement hmem
  obtain ⟨hfirst, -, hlt, -⟩ := Document.of_mem_straddling (hpair ▸ List.mem_singleton_self pair)
  obtain ⟨_, _, _, _, hfile⟩ := Document.of_mem_marksOf hfirst
  have hle : pair.1.position + 1 ≤ front.length := by omega
  rw [Document.fileAt, hmarkers, List.take_append_of_le_length hle] at hfile
  have hne : Marker.lastFile (front.take (pair.1.position + 1)) ≠ "" := by
    intro hempty
    have hpath := (Document.path_of_mem_sourceFiles
      (hplaced.discovered.named _ (List.mem_map_of_mem hmem))).1
    rw [← hfile, hempty] at hpath
    exact hpath rfl
  have hswitched := Marker.lastFile_mem_switches hne
  rw [hfile] at hswitched
  exact ((List.take_sublist _ front).filterMap Marker.file?).subset hswitched

/-- Merged lines switch to the same files in the same order of first appearance. -/
theorem eraseDups_switches_thread {front back : List Marker} (hplaced : Placed document placements)
    (hmarkers : document.markers = front ++ back) :
    (Marker.switches (Splice.thread Snippet.markers placements 0 front)).eraseDups =
      (Marker.switches front).eraseDups := by
  induction front using List.reverseRecOn generalizing back with
  | nil => rfl
  | append_singleton front marker ih =>
    rw [List.append_assoc, List.singleton_append] at hmarkers
    have hknown : ∀ file ∈
        Marker.switches (Splice.copiesAt Snippet.markers placements front.length),
        file ∈ Marker.switches front := by
      intro file hfile
      obtain ⟨copied, hcopied, hswitch⟩ := List.mem_filterMap.mp hfile
      obtain ⟨placement, hmem, hindex, hcopy⟩ := Splice.mem_copiesAt.mp hcopied
      rw [Snippet.file_of_mem_markers hcopy file hswitch]
      exact hplaced.file_mem_switches hmarkers hmem hindex
    rw [Splice.thread_append_singleton, Marker.switches, List.filterMap_append,
      List.filterMap_append, Marker.switches, List.filterMap_append]
    exact eraseDups_append_append (ih hmarkers) hknown

/-- Merged lines name the source files that the document names, in the same order. -/
theorem sourceFiles_merged {merged : Document} (hplaced : Placed document placements)
    (hmerged : merged.markers = Splice.weave Snippet.markers placements document.markers) :
    merged.sourceFiles = document.sourceFiles := by
  rw [Document.sourceFiles_eq, Document.sourceFiles_eq, hmerged, hplaced.weave_markers]
  exact hplaced.eraseDups_switches_thread (List.append_nil _).symm

end Placed

/-- A list in which something holds of a member has a first member of which it holds. -/
private theorem exists_first {α : Type} {P : α → Prop} {list : List α}
    (hexists : ∃ member ∈ list, P member) :
    ∃ before first after, list = before ++ first :: after ∧ P first ∧
      ∀ other ∈ before, ¬ P other := by
  induction list with
  | nil =>
    obtain ⟨_, hmem, _⟩ := hexists
    cases hmem
  | cons head rest ih =>
    by_cases hhead : P head
    · exact ⟨[], head, rest, rfl, hhead, List.forall_mem_nil _⟩
    · obtain ⟨member, hmem, hmember⟩ := hexists
      have hrest : member ∈ rest := (List.mem_cons.mp hmem).resolve_left
        fun heq => hhead (heq ▸ hmember)
      obtain ⟨before, first, after, rfl, hfirst, hbefore⟩ := ih ⟨member, hrest, hmember⟩
      refine ⟨head :: before, first, after, rfl, hfirst, fun other hother => ?_⟩
      rcases List.mem_cons.mp hother with rfl | hother
      · exact hhead
      · exact hbefore other hother

namespace Placement

/-- Placing snippets stops at a snippet without a place, if those before it have one each. -/
theorem locateAll_eq_error {document : Document} {before after : List Snippet} {snippet : Snippet}
    {fault : Fault} (hbefore : ∀ other ∈ before, ∃ place, locate document other = .ok place)
    (hfault : locate document snippet = .error fault) :
    locateAll document (before ++ snippet :: after) = .error fault := by
  refine mapM_eq_error_iff.mpr ⟨before, snippet, after, rfl, fun other hother => ?_, ?_⟩
  · obtain ⟨place, hplace⟩ := hbefore other hother
    exact ⟨⟨other, place⟩, by rw [hplace]; rfl⟩
  · rw [hfault]
    rfl

end Placement

namespace Injection

/-- A run on merged lines finds the same source files and the same snippets, and stops at the first
snippet that bears a source line, which is in the lines already. -/
theorem run_again_unplaced {document : Document} {read : Reader} {table : LanguageTable}
    {lines : List String} {placements : List Placement} {warnings : List Diagnostic}
    (hrun : run document read table = .ok (.merged lines placements warnings))
    (hplain : ∀ placement ∈ placements, placement.snippet.Plain)
    (hbears : ∃ snippet ∈ placements.map Placement.snippet, snippet.Bears) :
    ∃ merged before snippet after, Document.ofLines lines = .ok merged ∧
      merged.sourceFiles = document.sourceFiles ∧
      placements.map Placement.snippet = before ++ snippet :: after ∧ snippet.Bears ∧
      (∀ other ∈ before, ¬ other.Bears) ∧
      run merged read table =
        .ok (.misplaced (placements.map Placement.snippet) warnings (.unplaced snippet)) ∧
      (Fault.unplaced snippet).diagnostic.code = "E203" := by
  obtain ⟨collection, hcollection, hplacements, rfl, rfl⟩ := eq_merged_of_run hrun
  have hplaced := placed_of_locateAll hcollection hplacements
  have hsnippets := (Placement.locateAll_ok hplacements).1
  obtain ⟨merged, hofLines, -, hmarkers⟩ := hplaced.exists_ofLines hplain
  obtain ⟨before, snippet, after, hsplit, hfirst, hbefore⟩ := exists_first hbears
  have hfiles := hplaced.sourceFiles_merged hmarkers
  have hplacement {other : Snippet} (hother : other ∈ before ++ snippet :: after) :
      ∃ placement ∈ placements, placement.snippet = other :=
    List.mem_map.mp (hsplit ▸ hother)
  have hfault : Placement.locateAll merged collection.snippets = .error (.unplaced snippet) := by
    rw [← hsnippets, hsplit]
    refine Placement.locateAll_eq_error (fun other hother => ?_) ?_
    · obtain ⟨placement, hmem, rfl⟩ := hplacement (List.mem_append_left _ hother)
      exact hplaced.locate_of_not_bears hmarkers hmem (hbefore _ hother)
    · obtain ⟨placement, hmem, rfl⟩ :=
        hplacement (List.mem_append_right _ List.mem_cons_self)
      exact hplaced.locate_of_bears hmarkers hmem hfirst
  have hagain : Collection.ofDocument (m := Id) merged table read = .ok collection := by
    rw [Collection.ofDocument, hfiles]
    exact hcollection
  refine ⟨merged, before, snippet, after, hofLines, hfiles, hsplit, hfirst, hbefore, ?_, rfl⟩
  simp only [run, hagain, ofCollection, hfault, hsnippets]

/-- The first of the two blocks is a statement, so it stops a second run. -/
theorem run_again_unplaced_twoBlocks :
    run twoMarks twoBlocks [] = .ok (.merged twoCopies twoPlacements []) ∧
    (∀ placement ∈ twoPlacements, placement.snippet.Plain) ∧
    (∃ snippet ∈ twoPlacements.map Placement.snippet, snippet.Bears) ∧
    ∃ merged snippet, Document.ofLines twoCopies = .ok merged ∧ snippet.Bears ∧
      run merged twoBlocks [] =
        .ok (.misplaced (twoPlacements.map Placement.snippet) [] (.unplaced snippet)) := by
  have hbears : ∃ snippet ∈ twoPlacements.map Placement.snippet, snippet.Bears :=
    ⟨⟨"A.cs", 3, 3, ["add"], by decide⟩, List.mem_cons_self, [], "add", [], rfl,
      by decide +kernel, by decide⟩
  refine ⟨run_twoBlocks, plain_twoPlacements, hbears, ?_⟩
  obtain ⟨merged, _, snippet, _, hofLines, -, -, hfirst, -, hagain, -⟩ :=
    run_again_unplaced run_twoBlocks plain_twoPlacements hbears
  exact ⟨merged, snippet, hofLines, hfirst, hagain⟩

end Injection

end ILGraft
