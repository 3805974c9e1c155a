import ILGraft.Proofs.Crossings
import ILGraft.Proofs.ShownLines

/-!
# Searching merged lines

The run of source lines that a copy shows stands between the two marks around the copied snippet.
So a snippet finds in merged lines the pairs that it finds in the document, except that a source
line in its own range keeps such a pair from straddling it.
-/

namespace ILGraft

namespace Placed

variable {document : Document} {placements : List Placement} {snippet : Snippet}

/-- The number that a search sees where a snippet of its file is placed straddles that snippet,
with the last number before it. -/
theorem straddles_site {front back : List Nat} {number : Nat}
    (hplaced : Placed document placements) {placement : Placement} (hmem : placement ∈ placements)
    (hvisible : Marker.visible placement.snippet.file "" document.markers =
      front ++ number :: back)
    (hindex : placement.index = (front.length : Int)) :
    number ≠ 0 ∧
      Placement.straddles placement.snippet (Placement.latest none front) number = true := by
  obtain ⟨pair, hpair, hsite⟩ := hplaced.sited placement hmem
  have hcrossings := Placement.crossings_document document placement.snippet
  have hposition : front.length = pair.2.position := by omega
  rw [hpair, List.map_singleton, hvisible, ← hposition] at hcrossings
  exact Placement.straddles_of_mem_crossings (hcrossings ▸ List.mem_singleton_self _)

/-- What a search sees in the copies at a line is a run between the number before it and the
number of the line. -/
theorem between_copiesAt {wanted : String} {front back : List Nat} {number : Nat}
    (hplaced : Placed document placements)
    (hvisible : Marker.visible wanted "" document.markers = front ++ number :: back) :
    Placement.Between (Placement.latest none front)
      (Splice.copiesAt (Snippet.shown wanted) placements front.length) number := by
  have hsite : ∀ other ∈ Splice.copiesAt (Snippet.shown wanted) placements front.length,
      other ≠ 0 → ∃ before, Placement.latest none front = some before ∧ before < other ∧
        other < number := by
    intro other hother hne
    obtain ⟨placement, hmem, hindex, hshown⟩ := Splice.mem_copiesAt.mp hother
    obtain ⟨rfl, hfirst, hlast, -⟩ := Snippet.of_mem_shown hshown hne
    obtain ⟨before, hlatest, hbefore, hbehind⟩ :=
      Placement.straddles_iff.mp (hplaced.straddles_site hmem hvisible hindex).2
    exact ⟨before, hlatest, by omega, by omega⟩
  refine ⟨?_, fun other hother hne => ?_, fun other hother hne => ?_⟩
  · have hordered := hplaced.discovered.ordered
    rw [List.pairwise_map] at hordered
    rw [Splice.copiesAt, List.pairwise_flatMap]
    refine ⟨fun placement _ => placement.snippet.pairwise_shown wanted, ?_⟩
    refine (hordered.filter _).imp fun {one other} hprecedes a ha b hb hane hbne => ?_
    obtain ⟨hone, -, hlast, -⟩ := Snippet.of_mem_shown ha hane
    obtain ⟨hother, hfirst, -, -⟩ := Snippet.of_mem_shown hb hbne
    have := hprecedes (hone.trans hother.symm)
    omega
  · obtain ⟨before, hlatest, hlt, -⟩ := hsite other hother hne
    exact ⟨before, hlatest, hlt⟩
  · obtain ⟨-, -, -, hlt⟩ := hsite other hother hne
    exact hlt

/-- The last number that a search has seen behind a line of the document is the same as before the
merge. -/
theorem latest_thread {wanted : String} {front back : List Nat}
    (hplaced : Placed document placements)
    (hvisible : Marker.visible wanted "" document.markers = front ++ back) :
    Placement.latest none (Splice.thread (Snippet.shown wanted) placements 0 front) =
      Placement.latest none front := by
  induction front using List.reverseRecOn generalizing back with
  | nil => rfl
  | append_singleton front number ih =>
    rw [List.append_assoc, List.singleton_append] at hvisible
    rw [Splice.thread_append_singleton, Placement.latest_append, Placement.latest_append,
      Placement.latest_append, ih hvisible, Placement.latest, Placement.latest, Placement.latest,
      Placement.latest]
    by_cases hnumber : number = 0
    · have hbetween := hplaced.between_copiesAt hvisible
      rw [if_pos hnumber, if_pos hnumber]
      refine Placement.latest_of_zeros fun other hother => ?_
      by_contra hne
      have := hbetween.below other hother hne
      omega
    · rw [if_neg hnumber, if_neg hnumber]

/-- The crossings up to a line of the document are those up to the line before it, and those among
the copies in front of it and the line itself. -/
theorem crossings_thread_append {wanted : String} {front back : List Nat} {number : Nat}
    (hplaced : Placed document placements)
    (hvisible : Marker.visible wanted "" document.markers = front ++ number :: back) :
    Placement.crossings snippet 0 none
        (Splice.thread (Snippet.shown wanted) placements 0 (front ++ [number])) =
      Placement.crossings snippet 0 none
          (Splice.thread (Snippet.shown wanted) placements 0 front)
        ++ Placement.crossings snippet
          (Splice.thread (Snippet.shown wanted) placements 0 front).length
          (Placement.latest none front)
          (Splice.copiesAt (Snippet.shown wanted) placements front.length ++ [number]) := by
  rw [Splice.thread_append_singleton, List.append_assoc, Placement.crossings_append, Nat.zero_add,
    hplaced.latest_thread hvisible]

private theorem crossings_thread_of_precedes {front back : List Nat}
    (hplaced : Placed document placements)
    (hprecedes : ∀ placement ∈ placements, placement.snippet.Precedes snippet)
    (hvisible : Marker.visible snippet.file "" document.markers = front ++ back) :
    Placement.crossings snippet 0 none
        (Splice.thread (Snippet.shown snippet.file) placements 0 front) =
      (Placement.crossings snippet 0 none front).map (Splice.moved placements) := by
  induction front using List.reverseRecOn generalizing back with
  | nil => rfl
  | append_singleton front number ih =>
    rw [List.append_assoc, List.singleton_append] at hvisible
    have hbelow : ∀ other ∈ Splice.copiesAt (Snippet.shown snippet.file) placements front.length,
        other ≠ 0 → (other : Int) < snippet.first ∧
          ∃ before, Placement.latest none front = some before ∧
            (before : Int) < snippet.first := by
      intro other hother hne
      obtain ⟨placement, hmem, -, hshown⟩ := Splice.mem_copiesAt.mp hother
      obtain ⟨hfile, -, hlast, -⟩ := Snippet.of_mem_shown hshown hne
      obtain ⟨before, hlatest, hlt⟩ := (hplaced.between_copiesAt hvisible).above other hother hne
      have hgap := hprecedes placement hmem hfile
      exact ⟨by omega, before, hlatest, by omega⟩
    have hlength := Splice.length_thread_append_copiesAt (Snippet.length_shown snippet.file)
      hplaced.index_nonneg front
    rw [List.length_append] at hlength
    rw [hplaced.crossings_thread_append hvisible, ih hvisible,
      Placement.crossings_of_below hbelow, hlength, Placement.crossings_append, List.map_append,
      Nat.zero_add, Placement.crossings_singleton, Placement.crossings_singleton]
    split <;> rfl

/-- A snippet whose own file shows only earlier snippets finds in merged lines what it finds in the
document. -/
theorem crossings_merged (hplaced : Placed document placements)
    (hprecedes : ∀ placement ∈ placements, placement.snippet.Precedes snippet) :
    Placement.crossings snippet 0 none (Marker.visible snippet.file ""
        (Splice.weave Snippet.markers placements document.markers)) =
      (Placement.crossings snippet 0 none (Marker.visible snippet.file "" document.markers)).map
        (Splice.moved placements) := by
  rw [hplaced.visible_weave]
  exact hplaced.crossings_thread_of_precedes hprecedes (List.append_nil _).symm

/-- A snippet keeps those of its crossings at which no copy shows a number in its range. -/
private theorem length_crossings_thread {front back : List Nat}
    (hplaced : Placed document placements)
    (hvisible : Marker.visible snippet.file "" document.markers = front ++ back) :
    (Placement.crossings snippet 0 none
        (Splice.thread (Snippet.shown snippet.file) placements 0 front)).length =
      ((Placement.crossings snippet 0 none front).filter fun position =>
        Placement.Avoids snippet
          (Splice.copiesAt (Snippet.shown snippet.file) placements position)).length := by
  induction front using List.reverseRecOn generalizing back with
  | nil => rfl
  | append_singleton front number ih =>
    rw [List.append_assoc, List.singleton_append] at hvisible
    have hbetween := hplaced.between_copiesAt hvisible
    rw [hplaced.crossings_thread_append hvisible, List.length_append, ih hvisible,
      Placement.crossings_append snippet 0 none front, List.filter_append, List.length_append,
      Nat.zero_add]
    congr 1
    by_cases havoids : Placement.Avoids snippet
        (Splice.copiesAt (Snippet.shown snippet.file) placements front.length)
    · rw [Placement.length_crossings_of_avoids front.length hbetween havoids,
        Placement.crossings_singleton]
      split <;> simp [havoids]
    · rw [Placement.crossings_of_not_avoids hbetween havoids, Placement.crossings_singleton]
      split <;> simp [havoids]

variable {merged : Document} {placement : Placement}

/-- A placed snippet has one crossing in merged lines if no copy at its place shows a number in its
range, and none otherwise. -/
private theorem length_crossings_merged (hplaced : Placed document placements)
    (hmem : placement ∈ placements) :
    ∃ position : Nat, placement.index = (position : Int) ∧
      (Placement.crossings placement.snippet 0 none (Marker.visible placement.snippet.file ""
        (Splice.weave Snippet.markers placements document.markers))).length =
      if Placement.Avoids placement.snippet
        (Splice.copiesAt (Snippet.shown placement.snippet.file) placements position)
      then 1 else 0 := by
  obtain ⟨pair, hpair, hindex⟩ := hplaced.sited placement hmem
  refine ⟨pair.2.position, hindex, ?_⟩
  have hcrossings := Placement.crossings_document document placement.snippet
  rw [hpair, List.map_singleton] at hcrossings
  rw [hplaced.visible_weave, hplaced.length_crossings_thread (List.append_nil _).symm, hcrossings]
  by_cases havoids : Placement.Avoids placement.snippet
      (Splice.copiesAt (Snippet.shown placement.snippet.file) placements pair.2.position)
  · rw [if_pos havoids]
    simp [havoids]
  · rw [if_neg havoids]
    simp [havoids]

/-- A snippet that bears a source line finds no place in merged lines that hold it already. -/
theorem locate_of_bears (hplaced : Placed document placements)
    (hmerged : merged.markers = Splice.weave Snippet.markers placements document.markers)
    (hmem : placement ∈ placements) (hbears : placement.snippet.Bears) :
    Placement.locate merged placement.snippet = .error (.unplaced placement.snippet) := by
  obtain ⟨position, hindex, hlength⟩ := hplaced.length_crossings_merged hmem
  have hpos := hplaced.discovered.first_pos _ (List.mem_map_of_mem hmem)
  obtain ⟨number, hshown, hnumber⟩ := hbears.exists_shown hpos
  have hinside : ¬ Placement.Avoids placement.snippet
      (Splice.copiesAt (Snippet.shown placement.snippet.file) placements position) := by
    intro havoids
    have hcopied := Splice.mem_copiesAt.mpr ⟨placement, hmem, hindex, hshown⟩
    obtain ⟨-, hfirst, hlast, -⟩ := Snippet.of_mem_shown hshown hnumber
    have := havoids number hcopied hnumber
    omega
  rw [if_neg hinside, List.length_eq_zero_iff] at hlength
  rw [Placement.locate_eq_outcome_crossings, hmerged, hlength]
  rfl

/-- A snippet that bears no source line still has a place in merged lines that hold it already. -/
theorem locate_of_not_bears (hplaced : Placed document placements)
    (hmerged : merged.markers = Splice.weave Snippet.markers placements document.markers)
    (hmem : placement ∈ placements) (hbears : ¬ placement.snippet.Bears) :
    ∃ place, Placement.locate merged placement.snippet = .ok place := by
  obtain ⟨position, -, hlength⟩ := hplaced.length_crossings_merged hmem
  have havoids : Placement.Avoids placement.snippet
      (Splice.copiesAt (Snippet.shown placement.snippet.file) placements position) := by
    intro number hcopied hnumber
    obtain ⟨other, hother, -, hshown⟩ := Splice.mem_copiesAt.mp hcopied
    obtain ⟨hfile, hfirst, hlast, hbearsOther⟩ := Snippet.of_mem_shown hshown hnumber
    have hne : other.snippet ≠ placement.snippet := fun heq => hbears (heq ▸ hbearsOther)
    -- ranges of one file do not overlap, so the number lies outside
    rcases hplaced.discovered.apart (List.mem_map_of_mem hother) (List.mem_map_of_mem hmem) hne
      with hbefore | hafter
    · have := hbefore hfile
      omega
    · have := hafter hfile.symm
      omega
  rw [if_pos havoids, List.length_eq_one_iff] at hlength
  obtain ⟨place, hplace⟩ := hlength
  refine ⟨place, ?_⟩
  rw [Placement.locate_eq_outcome_crossings, hmerged, hplace]
  rfl

end Placed

end ILGraft
