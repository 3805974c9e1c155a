import ILGraft.Diagnostic.Renderer
import Mathlib.Data.List.Basic

/-!
# Caches of source lines

A renderer remembers the lines of a file from the first time it quotes one. What it shows of a
diagnostic is decided by what it sees of each file: what it remembers, or else what the tree holds.
As long as the files stay as they are, the two are the same, so what it shows does not depend on
what it has shown before.
-/

namespace ILGraft.Renderer

variable {tree : FileTree} {cache : LineCache}

/-! ## Rendering over lines -/

/-- A diagnostic over the lines of the files that its labels name. -/
def textOver (palette : Palette) (lines : String → List String) (diagnostic : Diagnostic) :
    String :=
  "\n".intercalate (header palette diagnostic ::
    diagnostic.labels.flatMap (fun label =>
      showLabel palette diagnostic.severity (lines label.span.file) label)
    ++ diagnostic.notes.map (showNote palette))

/-- The lines that a renderer takes for those of a file: what it remembers, or else what the tree
holds. -/
def seen (tree : FileTree) (cache : LineCache) (file : String) : List String :=
  (cache.lookup file).getD (linesOf tree file)

/-- A renderer without memories sees the lines of the tree. -/
theorem seen_nil (tree : FileTree) : seen tree [] = linesOf tree := by
  funext file
  rw [seen, List.lookup_nil, Option.getD_none]

/-- What is fetched of a file is what the renderer sees of it. -/
theorem fst_fetch (tree : FileTree) (cache : LineCache) (file : String) :
    (fetch tree cache file).1 = seen tree cache file := by
  unfold fetch seen
  cases cache.lookup file <;> rfl

/-- A file that is fetched is remembered as it is seen; nothing else changes. -/
theorem lookup_fetch (tree : FileTree) (cache : LineCache) (file other : String) :
    (fetch tree cache file).2.lookup other =
      if other = file then some (seen tree cache file) else cache.lookup other := by
  unfold fetch seen
  cases hfile : cache.lookup file with
  | some lines =>
    by_cases hother : other = file
    · rw [if_pos hother, hother, hfile, Option.getD_some]
    · rw [if_neg hother]
  | none =>
    rw [List.lookup_append]
    by_cases hother : other = file
    · rw [if_pos hother, hother, hfile, Option.none_or, List.lookup_cons_self, Option.getD_none]
    · have hnew : [(file, linesOf tree file)].lookup other = none := by
        rw [List.lookup_cons, beq_false_of_ne hother, List.lookup_nil]
      rw [if_neg hother, hnew, Option.or_none]

/-- Fetching a file changes nothing that is seen. -/
theorem seen_fetch (tree : FileTree) (cache : LineCache) (file : String) :
    seen tree (fetch tree cache file).2 = seen tree cache := by
  funext other
  rw [seen, lookup_fetch]
  by_cases hother : other = file
  · rw [if_pos hother, hother, Option.getD_some]
  · rw [if_neg hother, seen]

/-- Labels are shown over the lines that the renderer sees, and their files are remembered as they
are seen. -/
theorem showLabels_eq (tree : FileTree) (palette : Palette) (severity : Severity)
    (cache : LineCache) (labels : List Label) :
    (showLabels tree palette severity cache labels).1 =
        labels.flatMap (fun label =>
          showLabel palette severity (seen tree cache label.span.file) label) ∧
      ∀ other, (showLabels tree palette severity cache labels).2.lookup other =
        if other ∈ labels.map (·.span.file) then some (seen tree cache other)
        else cache.lookup other := by
  induction labels generalizing cache with
  | nil => exact ⟨rfl, fun other => rfl⟩
  | cons label rest ih =>
    obtain ⟨hshown, hremembered⟩ := ih (fetch tree cache label.span.file).2
    rw [seen_fetch] at hshown hremembered
    refine ⟨?_, fun other => ?_⟩
    · simp only [showLabels, List.flatMap_cons]
      rw [hshown, fst_fetch]
    · simp only [showLabels, List.map_cons, List.mem_cons]
      rw [hremembered, lookup_fetch]
      by_cases hfile : other = label.span.file
      · simp only [hfile, true_or, if_true, ite_self]
      · simp only [hfile, false_or, if_false]

/-- What is remembered of labels is what is fetched for them, in whatever colours they are shown. -/
theorem snd_showLabels (tree : FileTree) (palette : Palette) (severity : Severity)
    (cache : LineCache) (labels : List Label) :
    (showLabels tree palette severity cache labels).2 =
      labels.foldl (fun cache label => (fetch tree cache label.span.file).2) cache := by
  induction labels generalizing cache with
  | nil => rfl
  | cons label rest ih => exact ih _

/-- The names of the files that the labels of a diagnostic point at. -/
def namesOf (diagnostic : Diagnostic) : List String :=
  diagnostic.labels.map (·.span.file)

/-- A diagnostic is shown over the lines that the renderer sees, and the files that its labels name
are remembered as they are seen. -/
theorem render_eq (tree : FileTree) (palette : Palette) (cache : LineCache)
    (diagnostic : Diagnostic) :
    (render tree palette cache diagnostic).1 = textOver palette (seen tree cache) diagnostic ∧
      ∀ other, (render tree palette cache diagnostic).2.lookup other =
        if other ∈ namesOf diagnostic then some (seen tree cache other)
        else cache.lookup other := by
  obtain ⟨hshown, hremembered⟩ :=
    showLabels_eq tree palette diagnostic.severity cache diagnostic.labels
  refine ⟨?_, hremembered⟩
  unfold render textOver
  rw [← hshown]

/-! ## Caches of files that stay -/

/-- What is remembered of files is what the tree holds. -/
def Faithful (tree : FileTree) (cache : LineCache) : Prop :=
  ∀ entry ∈ cache, entry.2 = linesOf tree entry.1

/-- A cache that remembers nothing is faithful. -/
theorem faithful_nil (tree : FileTree) : Faithful tree [] :=
  List.forall_mem_nil _

/-- With a faithful cache, the lines of the tree are seen. -/
theorem seen_of_faithful (hcache : Faithful tree cache) : seen tree cache = linesOf tree := by
  funext file
  rw [seen]
  cases hfound : cache.lookup file with
  | none => rw [Option.getD_none]
  | some lines =>
    obtain ⟨before, after, rfl, -⟩ := List.lookup_eq_some_iff.mp hfound
    exact hcache (file, lines) (List.mem_append_right _ List.mem_cons_self)

/-- Fetching a file leaves a faithful cache faithful. -/
theorem faithful_fetch (hcache : Faithful tree cache) (file : String) :
    Faithful tree (fetch tree cache file).2 := by
  unfold fetch
  cases cache.lookup file with
  | some lines => exact hcache
  | none =>
    intro entry hmem
    rcases List.mem_append.mp hmem with hold | hnew
    · exact hcache entry hold
    · rw [List.mem_singleton.mp hnew]

/-- Showing labels leaves a faithful cache faithful. -/
theorem faithful_showLabels (hcache : Faithful tree cache) (palette : Palette)
    (severity : Severity) (labels : List Label) :
    Faithful tree (showLabels tree palette severity cache labels).2 := by
  induction labels generalizing cache with
  | nil => exact hcache
  | cons label rest ih => exact ih (faithful_fetch hcache label.span.file)

/-- The lines that show the labels of a diagnostic, each over the lines of its file. -/
def labelLines (tree : FileTree) (palette : Palette) (diagnostic : Diagnostic) : List String :=
  diagnostic.labels.flatMap fun label =>
    showLabel palette diagnostic.severity (linesOf tree label.span.file) label

/-- A diagnostic is shown over the lines of the tree, whatever a faithful cache remembers, and the
cache stays faithful. -/
theorem render_of_faithful (hcache : Faithful tree cache) (palette : Palette)
    (diagnostic : Diagnostic) :
    (render tree palette cache diagnostic).1 = "\n".intercalate (header palette diagnostic ::
        labelLines tree palette diagnostic ++ diagnostic.notes.map (showNote palette)) ∧
      Faithful tree (render tree palette cache diagnostic).2 := by
  refine ⟨?_, faithful_showLabels hcache palette diagnostic.severity diagnostic.labels⟩
  rw [(render_eq tree palette cache diagnostic).1, seen_of_faithful hcache]
  rfl

end ILGraft.Renderer
