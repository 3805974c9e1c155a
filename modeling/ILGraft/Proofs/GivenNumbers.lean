import ILGraft.Diagnostic.Display
import ILGraft.Proofs.BlockOutcomes
import ILGraft.Proofs.Numerals
import ILGraft.Proofs.Sites
import ILGraft.Proofs.StraddlingPairs

/-!
# Messages about given numbers

Snippets that come from a source file count its lines, so their numbers have few digits. Others may
have any numbers. What is said of them is the same as long as these can be written, so all that is
known of places, faults and diagnostics holds of them too; otherwise nothing is said.
-/

namespace ILGraft

namespace Block

variable {text file : String} {language : Language} {snippets : List Snippet} {snippet : Snippet}

/-- The lines of a snippet stand between two lines of its text. -/
theorem range_of_scan (hscan : scan text file language = .ok snippets) (hmem : snippet ∈ snippets) :
    1 < snippet.first ∧ snippet.first ≤ snippet.last + 1 ∧
      snippet.last < (Text.lines text.toList).length := by
  have hblock := (((scan_outcomes text file language).1 snippets).mp hscan).block snippet hmem
  obtain ⟨opener, hopener, hfirst, -⟩ := hblock.opened
  obtain ⟨closer, hcloser, hlast, -⟩ := hblock.closed
  have hlow := List.le_snd_of_mem_zipIdx hopener
  have hhigh := List.snd_lt_add_of_mem_zipIdx hcloser
  rw [List.length_map] at hhigh
  have hrange := first_le_last_add_one snippet
  omega

/-- The range of a snippet can be written if the number of lines of its text can. -/
theorem writable_of_scan (hsize : Text.Writable (Text.lines text.toList).length)
    (hscan : scan text file language = .ok snippets) (hmem : snippet ∈ snippets) :
    ∀ number ∈ [snippet.first, snippet.last], Text.Writable number := by
  obtain ⟨hlow, hrange, hhigh⟩ := range_of_scan hscan hmem
  have hbetween {number : Int} (hleft : 0 ≤ number)
      (hright : number ≤ (Text.lines text.toList).length) : Text.Writable number :=
    Text.Writable.of_between (by decide) hsize hleft hright
  rw [List.forall_mem_cons, List.forall_mem_singleton]
  exact ⟨hbetween (by omega) (by omega), hbetween (by omega) (by omega)⟩

end Block

/-- A snippet is described exactly if its range can be written. -/
theorem Snippet.tryDescribe_eq (snippet : Snippet) :
    snippet.tryDescribe =
      if ∀ number ∈ [snippet.first, snippet.last], Text.Writable number then
        .ok snippet.describe
      else .error .unwritable := by
  unfold tryDescribe Text.checkNumerals
  split <;> rfl

namespace Fault

/-- A fault is reported exactly if its numbers can be written. -/
theorem checked_error {α : Type} (fault : Fault) :
    checked (.error fault : Except Fault α) =
      if ∀ number ∈ fault.numerals, Text.Writable number then .ok (.error fault)
      else .error .unwritable := by
  unfold checked Text.checkNumerals
  dsimp only
  split <;> rfl

/-- Checks change nothing where the numbers of every fault can be written. -/
theorem checked_eq_ok {α : Type} {result : Except Fault α}
    (hfaults : ∀ fault, result = .error fault →
      ∀ number ∈ fault.numerals, Text.Writable number) :
    checked result = .ok result := by
  cases result with
  | ok value => rfl
  | error fault => rw [checked_error, if_pos (hfaults fault rfl)]

end Fault

namespace Placement

/-- A snippet without a single place is reported with its range. -/
theorem numerals_of_locate {document : Document} {snippet : Snippet} {fault : Fault}
    (hfault : locate document snippet = .error fault) :
    fault.numerals = [snippet.first, snippet.last] := by
  rcases locate_cases document snippet with ⟨place, hplace⟩ | hnone | ⟨first, second, hboth⟩
  · rw [hplace] at hfault
    cases hfault
  · rw [hnone] at hfault
    cases hfault
    rfl
  · rw [hboth] at hfault
    cases hfault
    rfl

/-- A snippet whose range can be written is placed or refused like one of a source file. -/
theorem tryLocate_of_writable {document : Document} {snippet : Snippet}
    (hwritable : ∀ number ∈ [snippet.first, snippet.last], Text.Writable number) :
    tryLocate document snippet = .ok (locate document snippet) :=
  Fault.checked_eq_ok fun _ hfault => numerals_of_locate hfault ▸ hwritable

/-- A snippet whose range cannot be written is placed like any other, but not refused by name. -/
theorem tryLocate_of_not_writable {document : Document} {snippet : Snippet}
    (hlong : ¬∀ number ∈ [snippet.first, snippet.last], Text.Writable number) :
    tryLocate document snippet =
      match locate document snippet with
      | .ok place => .ok (.ok place)
      | .error _ => .error .unwritable := by
  unfold tryLocate
  cases hlocated : locate document snippet with
  | ok place => rfl
  | error fault => rw [Fault.checked_error, numerals_of_locate hlocated, if_neg hlong]

/-- Snippets whose ranges can be written are placed or refused like those of source files. -/
theorem tryLocateAll_of_writable {document : Document} {snippets : List Snippet}
    (hwritable : ∀ snippet ∈ snippets,
      ∀ number ∈ [snippet.first, snippet.last], Text.Writable number) :
    tryLocateAll document snippets = .ok (locateAll document snippets) := by
  refine Fault.checked_eq_ok fun fault hfault => ?_
  obtain ⟨before, snippet, after, -, rfl, -, hsnippet⟩ := locateAll_error hfault
  rw [numerals_of_locate hsnippet]
  exact hwritable snippet (List.mem_append_right _ List.mem_cons_self)

/-- The snippets of a text can be placed, or refused, without a check. -/
theorem tryLocateAll_of_scan {document : Document} {text file : String} {language : Language}
    {snippets : List Snippet} (hsize : Text.Writable (Text.lines text.toList).length)
    (hscan : Block.scan text file language = .ok snippets) :
    tryLocateAll document snippets = .ok (locateAll document snippets) :=
  tryLocateAll_of_writable fun _ hmem => Block.writable_of_scan hsize hscan hmem

end Placement

namespace Renderer

/-- A diagnostic is shown exactly if the beginnings of its labels can be written. -/
theorem tryRender_eq (tree : FileTree) (palette : Palette) (cache : LineCache)
    (diagnostic : Diagnostic) :
    tryRender tree palette cache diagnostic =
      if ∀ number ∈ diagnostic.numerals, Text.Writable number then
        .ok (render tree palette cache diagnostic)
      else .error .unwritable := by
  unfold tryRender Text.checkNumerals
  split <;> rfl

/-- A display of diagnostics that can all be shown shows them like those about source files. -/
theorem tryDisplay_of_showable (palette : Palette) (tree : FileTree) (cache : LineCache)
    {events : List Event} (hshowable : ∀ event ∈ events, event.showable = true) :
    tryDisplay palette tree cache events =
      (display palette tree cache events).mapError .file := by
  have hwhole : (events ++ []).takeWhile Event.showable =
      events ++ [].takeWhile Event.showable := List.takeWhile_append_of_pos hshowable
  rw [List.takeWhile_nil, List.append_nil] at hwhole
  have hall : events.all Event.showable = true := List.all_eq_true.mpr hshowable
  unfold tryDisplay
  rw [hwhole]
  simp only [hall, if_true]
  cases display palette tree cache events <;> rfl

end Renderer

end ILGraft
