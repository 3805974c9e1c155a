import ILGraft.Proofs.Discovery

/-!
# Sites of placed snippets

A snippet is placed just before the second mark of the only pair of marks around it. That line
belongs to the snippet's file, so all snippets placed there do. Placing several snippets stops at
the first one that has no single place.
-/

namespace ILGraft

/-- A placement just before the second mark of the only pair that straddles its snippet. -/
def Placement.Sited (document : Document) (placement : Placement) : Prop :=
  ∃ pair, document.straddling placement.snippet = [pair] ∧
    placement.index = (pair.2.position : Int)

/-- Placements of discovered snippets, each at its site. -/
structure Placed (document : Document) (placements : List Placement) : Prop where
  /-- The snippets were discovered in the sources of the document. -/
  discovered : Discovered document (placements.map Placement.snippet)
  /-- Every placement is at its site. -/
  sited : ∀ placement ∈ placements, placement.Sited document

namespace Placement

/-- A site is a line of the snippet's own file that gives a source line. -/
theorem Sited.exists_marker {document : Document} {placement : Placement}
    (hsited : placement.Sited document) :
    ∃ (position : Nat) (marker : Marker), placement.index = (position : Int) ∧
      document.markers[position]? = some marker ∧ marker.number ≠ 0 ∧
      document.fileAt position = placement.snippet.file := by
  obtain ⟨pair, hpair, hindex⟩ := hsited
  have hmem : pair ∈ document.straddling placement.snippet := hpair ▸ List.mem_singleton_self pair
  obtain ⟨-, hsecond, -⟩ := Document.of_mem_straddling hmem
  obtain ⟨marker, hmarker, hnumber, hne, hfile⟩ := Document.of_mem_marksOf hsecond
  exact ⟨pair.2.position, marker, hindex, hmarker, hnumber ▸ hne, hfile⟩

/-- A site lies inside the document. -/
theorem Sited.lt_length {document : Document} {placement : Placement}
    (hsited : placement.Sited document) :
    0 ≤ placement.index ∧ placement.index < (document.markers.length : Int) := by
  obtain ⟨position, marker, hindex, hmarker, -⟩ := hsited.exists_marker
  have hlt := (List.getElem?_eq_some_iff.mp hmarker).1
  omega

/-- Placing one more snippet comes after placing the others. -/
theorem locateAll_append_singleton (document : Document) (snippets : List Snippet)
    (snippet : Snippet) :
    locateAll document (snippets ++ [snippet]) =
      (locateAll document snippets).bind fun placements =>
        (locate document snippet).map fun place => placements ++ [⟨snippet, place⟩] := by
  simp only [locateAll, List.mapM_append, List.mapM_cons, List.mapM_nil]
  cases snippets.mapM fun snippet => (do return ⟨snippet, ← locate document snippet⟩ :
    Except Fault Placement) with
  | error fault => rfl
  | ok placements => cases locate document snippet <;> rfl

/-- Once snippets have all been placed, the last one was placed after the others. -/
theorem of_locateAll_append_singleton {document : Document} {snippets : List Snippet}
    {snippet : Snippet} {placements : List Placement}
    (hok : locateAll document (snippets ++ [snippet]) = .ok placements) :
    ∃ before place, locateAll document snippets = .ok before ∧
      locate document snippet = .ok place ∧ placements = before ++ [⟨snippet, (place : Nat)⟩] := by
  rw [locateAll_append_singleton] at hok
  cases hbefore : locateAll document snippets with
  | error fault => simp only [hbefore, Except.bind, reduceCtorEq] at hok
  | ok before =>
    cases hplace : locate document snippet with
    | error fault => simp only [hbefore, hplace, Except.bind, Except.map, reduceCtorEq] at hok
    | ok place =>
      simp only [hbefore, hplace, Except.bind, Except.map, Except.ok.injEq] at hok
      exact ⟨before, place, rfl, rfl, hok.symm⟩

/-- Snippets that have all been placed are at their sites. -/
theorem locateAll_ok {document : Document} {snippets : List Snippet}
    {placements : List Placement} (hok : locateAll document snippets = .ok placements) :
    placements.map Placement.snippet = snippets ∧
      ∀ placement ∈ placements, placement.Sited document := by
  induction snippets using List.reverseRecOn generalizing placements with
  | nil =>
    cases hok
    exact ⟨rfl, List.forall_mem_nil _⟩
  | append_singleton snippets snippet ih =>
    obtain ⟨before, place, hbefore, hplace, rfl⟩ := of_locateAll_append_singleton hok
    obtain ⟨hsnippets, hsited⟩ := ih hbefore
    obtain ⟨pair, hpair, hposition⟩ := straddling_of_locate hplace
    refine ⟨by rw [List.map_append, hsnippets, List.map_singleton], fun placement hmem => ?_⟩
    rcases List.mem_append.mp hmem with hearlier | hlast
    · exact hsited placement hearlier
    · rw [List.mem_singleton.mp hlast]
      exact ⟨pair, hpair, by simp only [hposition]⟩

/-- Placing snippets fails at the first of them that has no single place. -/
theorem locateAll_error {document : Document} {snippets : List Snippet} {fault : Fault}
    (herror : locateAll document snippets = .error fault) :
    ∃ before snippet after placements, snippets = before ++ snippet :: after ∧
      locateAll document before = .ok placements ∧ locate document snippet = .error fault := by
  induction snippets using List.reverseRecOn with
  | nil => cases herror
  | append_singleton snippets snippet ih =>
    rw [locateAll_append_singleton] at herror
    cases hbefore : locateAll document snippets with
    | error earlier =>
      simp only [hbefore, Except.bind, Except.error.injEq] at herror
      obtain ⟨before, first, after, placements, rfl, hplacements, hfirst⟩ :=
        ih (by rw [hbefore, herror])
      exact ⟨before, first, after ++ [snippet], placements,
        by rw [List.append_assoc, List.cons_append], hplacements, hfirst⟩
    | ok placements =>
      cases hplace : locate document snippet with
      | error last =>
        simp only [hbefore, hplace, Except.bind, Except.map, Except.error.injEq] at herror
        exact ⟨snippets, snippet, [], placements, rfl, hbefore, by rw [hplace, herror]⟩
      | ok place => simp only [hbefore, hplace, Except.bind, Except.map, reduceCtorEq] at herror

end Placement

/-- Discovered snippets that have all been located are placed. -/
theorem Placed.of_locateAll {document : Document} {snippets : List Snippet}
    {placements : List Placement} (hdiscovered : Discovered document snippets)
    (hok : Placement.locateAll document snippets = .ok placements) :
    Placed document placements := by
  obtain ⟨hsnippets, hsited⟩ := Placement.locateAll_ok hok
  exact ⟨hsnippets ▸ hdiscovered, hsited⟩

end ILGraft
