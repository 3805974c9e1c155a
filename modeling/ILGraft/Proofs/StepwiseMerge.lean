import ILGraft.Proofs.MergedSearch

/-!
# Merging snippets one after the other

All snippets of a document are located in it as it is and merged at once. They may as well be
merged one after the other, each located in the lines that the earlier ones have left, which are
read again for it. The lines are the same, and so are the snippet and the kind of fault at which
the two stop.
-/

namespace ILGraft

namespace Injection

/-- Why a snippet cannot be merged into lines. -/
inductive Refusal
  /-- The lines cannot be read. -/
  | unread (fault : Text.LongNumeral)
  /-- The snippet has no single place in them. -/
  | misplaced (fault : Fault)
  /-- The place of the snippet lies outside the lines. -/
  | outOfRange (fault : OutOfRange)

/-- Reads lines again, locates a snippet in them and merges it. -/
def mergeNext (lines : List String) (snippet : Snippet) : Except Refusal (List String) := do
  let document ← (Document.ofLines lines).mapError .unread
  let placements ← (Placement.locateAll document [snippet]).mapError .misplaced
  (Splice.merge document.texts placements).mapError .outOfRange

/-- Merges snippets into lines one after the other. -/
def mergeEach (lines : List String) (snippets : List Snippet) : Except Refusal (List String) :=
  snippets.foldlM mergeNext lines

end Injection

namespace Placement

/-- A place among more lines is the new place of the one before. -/
private theorem outcome_map_ok {snippet : Snippet} {places : List Nat} {place : Nat}
    (hok : outcome snippet places = .ok place) (move : Nat → Nat) :
    outcome snippet (places.map move) = .ok (move place) := by
  match places, hok with
  | [_], hok =>
    cases hok
    rfl

/-- Without a single place, a snippet has none after its places have moved, for the same kind of
reason. -/
private theorem outcome_map_error {snippet : Snippet} {places : List Nat} {fault : Fault}
    (herror : outcome snippet places = .error fault) (move : Nat → Nat) :
    ∃ again, outcome snippet (places.map move) = .error again ∧
      again.report.kind = fault.report.kind := by
  match places, herror with
  | [], herror =>
    cases herror
    exact ⟨_, rfl, rfl⟩
  | _ :: _ :: _, herror =>
    cases herror
    exact ⟨_, rfl, rfl⟩

private theorem locateAll_singleton (document : Document) (snippet : Snippet) :
    locateAll document [snippet] =
      (locate document snippet).map fun place => [⟨snippet, (place : Nat)⟩] :=
  locateAll_append_singleton document [] snippet

end Placement

namespace Placed

variable {document : Document} {placements : List Placement} {snippet : Snippet}

/-- A snippet that has a place in the document is merged there into the lines that hold the
snippets before it. -/
theorem mergeNext_ok (hplaced : Placed document placements)
    (hplain : ∀ placement ∈ placements, placement.snippet.Plain)
    (hprecedes : ∀ placement ∈ placements, placement.snippet.Precedes snippet) {place : Nat}
    (hplace : Placement.locate document snippet = .ok place) :
    Injection.mergeNext (Splice.weave Snippet.annotated placements document.texts) snippet =
      .ok (Splice.weave Snippet.annotated (placements ++ [⟨snippet, place⟩]) document.texts) := by
  obtain ⟨merged, hofLines, htexts, hmarkers⟩ := hplaced.exists_ofLines hplain
  have hagain : Placement.locate merged snippet = .ok (Splice.moved placements place) := by
    rw [Placement.locate_eq_outcome_crossings] at hplace ⊢
    rw [hmarkers, hplaced.crossings_merged hprecedes]
    exact Placement.outcome_map_ok hplace _
  obtain ⟨pair, hpair, rfl⟩ := Placement.straddling_of_locate hplace
  have hsited : Placement.Sited document ⟨snippet, (pair.2.position : Nat)⟩ := ⟨pair, hpair, rfl⟩
  have hle : pair.2.position ≤ document.texts.length := by
    have hlt := hsited.lt_length.2
    rw [Document.length_texts]
    dsimp only at hlt
    omega
  have hfits : Splice.fits (Splice.weave Snippet.annotated placements document.texts).length
      ⟨snippet, (Splice.moved placements pair.2.position : Nat)⟩ = true := by
    have hmoved := Splice.moved_le_length_weave (fun _ => rfl) hplaced.index_nonneg hle
    simp only [Splice.fits, Bool.and_eq_true, decide_eq_true_eq]
    omega
  simp only [Injection.mergeNext, hofLines, Placement.locateAll_singleton, hagain, htexts,
    Splice.merge_singleton hfits, Except.mapError, Except.map, Bind.bind, Except.bind]
  rw [Splice.insert_weave hplaced.index_nonneg snippet hle]

/-- A snippet that has no single place in the document has none in the lines that hold the snippets
before it, for the same kind of reason. -/
theorem mergeNext_error (hplaced : Placed document placements)
    (hplain : ∀ placement ∈ placements, placement.snippet.Plain)
    (hprecedes : ∀ placement ∈ placements, placement.snippet.Precedes snippet) {fault : Fault}
    (hfault : Placement.locate document snippet = .error fault) :
    ∃ again, again.report.kind = fault.report.kind ∧
      Injection.mergeNext (Splice.weave Snippet.annotated placements document.texts) snippet =
        .error (.misplaced again) := by
  obtain ⟨merged, hofLines, -, hmarkers⟩ := hplaced.exists_ofLines hplain
  rw [Placement.locate_eq_outcome_crossings] at hfault
  obtain ⟨again, hagain, hkind⟩ := Placement.outcome_map_error hfault (Splice.moved placements)
  rw [← hplaced.crossings_merged hprecedes, ← hmarkers,
    ← Placement.locate_eq_outcome_crossings] at hagain
  refine ⟨again, hkind, ?_⟩
  simp only [Injection.mergeNext, hofLines, Placement.locateAll_singleton, hagain,
    Except.mapError, Except.map, Bind.bind, Except.bind]

end Placed

namespace Injection

variable {document : Document} {snippets : List Snippet}

private theorem mergeEach_append (lines : List String) (snippets more : List Snippet) :
    mergeEach lines (snippets ++ more) =
      (mergeEach lines snippets).bind fun merged => mergeEach merged more := by
  rw [mergeEach, List.foldlM_append]
  rfl

private theorem mergeEach_cons (lines : List String) (snippet : Snippet) (more : List Snippet) :
    mergeEach lines (snippet :: more) =
      (mergeNext lines snippet).bind fun merged => mergeEach merged more := by
  rw [mergeEach, List.foldlM_cons]
  rfl

/-- The snippets before one are placed and plain and precede it. -/
private theorem placed_before {more : List Snippet} {placements : List Placement}
    {snippet : Snippet} (hdiscovered : Discovered document (snippets ++ more))
    (hplain : ∀ other ∈ snippets ++ more, other.Plain)
    (hplacements : Placement.locateAll document snippets = .ok placements)
    (hsnippet : snippet ∈ more) :
    Placed document placements ∧ (∀ placement ∈ placements, placement.snippet.Plain) ∧
      ∀ placement ∈ placements, placement.snippet.Precedes snippet := by
  obtain ⟨hearlier, hprecedes⟩ := hdiscovered.of_append
  have hsnippets := (Placement.locateAll_ok hplacements).1
  have hmem : ∀ placement ∈ placements, placement.snippet ∈ snippets :=
    fun placement hplacement => hsnippets ▸ List.mem_map_of_mem hplacement
  refine ⟨.of_locateAll hearlier hplacements, fun placement hplacement => ?_,
    fun placement hplacement => ?_⟩
  · exact hplain _ (List.mem_append_left _ (hmem placement hplacement))
  · exact hprecedes _ (hmem placement hplacement) snippet hsnippet

/-- Snippets that are all located in the document are woven into it one after the other. -/
theorem mergeEach_of_locateAll {placements : List Placement}
    (hdiscovered : Discovered document snippets) (hplain : ∀ snippet ∈ snippets, snippet.Plain)
    (hplacements : Placement.locateAll document snippets = .ok placements) :
    mergeEach document.texts snippets =
      .ok (Splice.weave Snippet.annotated placements document.texts) := by
  induction snippets using List.reverseRecOn generalizing placements with
  | nil =>
    have hnone : Except.ok [] = Except.ok placements := hplacements
    rw [← Except.ok.inj hnone, Splice.weave_nil]
    rfl
  | append_singleton snippets snippet ih =>
    obtain ⟨before, place, hbefore, hplace, rfl⟩ :=
      Placement.of_locateAll_append_singleton hplacements
    have hearlier := ih hdiscovered.of_append.1
      (fun other hother => hplain other (List.mem_append_left _ hother)) hbefore
    obtain ⟨hplaced, hplainBefore, hprecedes⟩ :=
      placed_before hdiscovered hplain hbefore (List.mem_singleton_self snippet)
    rw [mergeEach_append, hearlier, Except.bind, mergeEach_cons,
      hplaced.mergeNext_ok hplainBefore hprecedes hplace]
    rfl

/-- The snippets of a document may be merged all at once or one after the other, with the same
lines. If one of them has no single place, both ways stop at the first such snippet, with the same
kind of fault. -/
theorem mergeEach_eq_merge {document : Document} {table : LanguageTable} {read : Reader}
    {collection : Collection}
    (hcollection : Collection.ofDocument (m := Id) document table read = .ok collection)
    (hplain : ∀ snippet ∈ collection.snippets, snippet.Plain) :
    (∀ placements, Placement.locateAll document collection.snippets = .ok placements →
      ∃ lines, Splice.merge document.texts placements = .ok lines ∧
        mergeEach document.texts collection.snippets = .ok lines) ∧
    ∀ fault, Placement.locateAll document collection.snippets = .error fault →
      ∃ before snippet after placements lines again,
        collection.snippets = before ++ snippet :: after ∧
        Placement.locateAll document before = .ok placements ∧
        Placement.locate document snippet = .error fault ∧
        mergeEach document.texts before = .ok lines ∧
        mergeNext lines snippet = .error (.misplaced again) ∧
        again.report.kind = fault.report.kind ∧
        mergeEach document.texts collection.snippets = .error (.misplaced again) := by
  have hdiscovered := Collection.discovered hcollection
  refine ⟨fun placements hplacements => ?_, fun fault hfault => ?_⟩
  · have hplaced := placed_of_locateAll hcollection hplacements
    exact ⟨_, Splice.merge_eq_weave hplaced.fits,
      mergeEach_of_locateAll hdiscovered hplain hplacements⟩
  · obtain ⟨before, snippet, after, placements, hsplit, hplacements, hfirst⟩ :=
      Placement.locateAll_error hfault
    rw [hsplit] at hdiscovered hplain
    have hbefore := mergeEach_of_locateAll hdiscovered.of_append.1
      (fun other hother => hplain other (List.mem_append_left _ hother)) hplacements
    obtain ⟨hplaced, hplainBefore, hprecedes⟩ :=
      placed_before hdiscovered hplain hplacements List.mem_cons_self
    obtain ⟨again, hkind, hnext⟩ := hplaced.mergeNext_error hplainBefore hprecedes hfirst
    refine ⟨before, snippet, after, placements, _, again, hsplit, hplacements, hfirst, hbefore,
      hnext, hkind, ?_⟩
    rw [hsplit, mergeEach_append, hbefore, Except.bind, mergeEach_cons, hnext]
    rfl

/-- With two marks, both blocks are merged either way; with one mark, both ways stop. -/
theorem mergeEach_eq_merge_twoBlocks :
    (∃ lines, Splice.merge twoMarks.texts twoPlacements = .ok lines ∧
      mergeEach twoMarks.texts (twoPlacements.map Placement.snippet) = .ok lines) ∧
    ∃ again, again.report.kind = .unplaced ∧
      mergeEach (twoMarks.texts.take 2) (twoPlacements.map Placement.snippet) =
        .error (.misplaced again) := by
  have hplain : ∀ snippet ∈ twoPlacements.map Placement.snippet, snippet.Plain := by
    intro snippet hsnippet
    obtain ⟨placement, hmem, rfl⟩ := List.mem_map.mp hsnippet
    exact plain_twoPlacements placement hmem
  have hboth : Collection.ofDocument (m := Id) twoMarks [] twoBlocks =
      .ok ⟨twoPlacements.map Placement.snippet, []⟩ := rfl
  have hone : Collection.ofDocument (m := Id) ⟨twoMarks.lines.take 2⟩ [] twoBlocks =
      .ok ⟨twoPlacements.map Placement.snippet, []⟩ := rfl
  refine ⟨(mergeEach_eq_merge hboth hplain).1 twoPlacements rfl, ?_⟩
  obtain ⟨_, _, _, _, _, again, -, -, -, -, -, hkind, herror⟩ :=
    (mergeEach_eq_merge hone hplain).2 (.unplaced ⟨"A.cs", 3, 3, ["add"], by decide⟩) rfl
  exact ⟨again, hkind, herror⟩

end Injection

end ILGraft
