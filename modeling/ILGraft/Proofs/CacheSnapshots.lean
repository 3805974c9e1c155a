import ILGraft.Diagnostic.Display
import ILGraft.Proofs.LineCaches

/-!
# What a renderer remembers

A renderer goes on showing the lines that a file had when a label first named it. Files may come,
change and go between two diagnostics; what is shown is what a renderer without a cache would show
over the files as they were found at the first use of each name. Two names of one file are two
names here, since each is looked up under its own spelling.
-/

namespace ILGraft.Renderer

variable {tree : FileTree} {cache : LineCache} {palette : Palette}

/-! ## What files hold -/

/-- The lines that stand for a file: those of its text, or none if it has no text. -/
def heldLines : Except TextError String → List String
  | .ok text => (Text.lines text.toList).map String.ofList
  | .error _ => []

/-- The lines of a tree are those that its files hold. -/
theorem linesOf_eq (tree : FileTree) (file : String) :
    linesOf tree file = heldLines (tree.readText (Path.ofString file)) := by
  unfold linesOf heldLines
  cases tree.readText (Path.ofString file) <;> rfl

/-- Only the lines of the files that its labels name matter for a diagnostic. -/
theorem textOver_congr {lines others : String → List String} {diagnostic : Diagnostic}
    (hsame : ∀ file ∈ namesOf diagnostic, lines file = others file) :
    textOver palette lines diagnostic = textOver palette others diagnostic := by
  have hlabels : ∀ label ∈ diagnostic.labels, lines label.span.file = others label.span.file :=
    fun label hlabel => hsame _ (List.mem_map_of_mem hlabel)
  unfold textOver
  rw [List.flatMap_congr fun label hlabel => by rw [hlabels label hlabel]]

/-! ## Files that change between diagnostics -/

namespace Event

/-- The files after an event. -/
def after (tree : FileTree) : Event → Except FileError FileTree
  | .write path bytes => tree.install path bytes
  | .remove path => .ok (tree.discard path)
  | .show _ => .ok tree

/-- The names of files that the labels of an event use. -/
def names : Event → List String
  | .show diagnostic => namesOf diagnostic
  | _ => []

/-- What an event renders over the lines of files. -/
def textOver? (palette : Palette) (lines : String → List String) : Event → Option String
  | .show diagnostic => some (textOver palette lines diagnostic)
  | _ => none

/-- What a fresh renderer shows of an event. -/
def freshText? (palette : Palette) (tree : FileTree) : Event → Option String
  | .show diagnostic => some (render tree palette [] diagnostic).1
  | _ => none

/-- Only the lines of the files that its labels name matter for an event. -/
theorem textOver?_congr {lines others : String → List String} {event : Event}
    (hsame : ∀ file ∈ event.names, lines file = others file) :
    event.textOver? palette lines = event.textOver? palette others := by
  cases event with
  | write | remove => rfl
  | «show» diagnostic => exact congrArg some (textOver_congr hsame)

/-- A fresh renderer shows an event over the lines of the tree. -/
theorem freshText?_eq (palette : Palette) (tree : FileTree) (event : Event) :
    event.freshText? palette tree = event.textOver? palette (linesOf tree) := by
  cases event with
  | write | remove => rfl
  | «show» diagnostic =>
    rw [freshText?, (render_eq tree palette [] diagnostic).1, seen_nil]
    rfl

end Event

/-- The files after events. -/
def reach (tree : FileTree) (events : List Event) : Except FileError FileTree :=
  events.foldlM Event.after tree

/-- A name is first used by a label when the files are as they are in `found`. -/
def FirstUsed (tree : FileTree) (events : List Event) (file : String) (found : FileTree) : Prop :=
  ∃ before event after, events = before ++ event :: after ∧
    (∀ earlier ∈ before, file ∉ earlier.names) ∧ file ∈ event.names ∧
    reach tree before = .ok found

/-- What a name holds when a label first uses it; what it holds in the end if none does. -/
def snapshot (tree : FileTree) : List Event → String → Except TextError String
  | [], file => tree.readText (Path.ofString file)
  | event :: rest, file =>
    if file ∈ event.names then tree.readText (Path.ofString file)
    else match event.after tree with
      | .ok tree => snapshot tree rest file
      | .error _ => tree.readText (Path.ofString file)

/-- A snapshot holds what a name held when it was first used. -/
theorem snapshot_of_firstUsed {events : List Event} {file : String} {found : FileTree}
    (hfirst : FirstUsed tree events file found) :
    snapshot tree events file = found.readText (Path.ofString file) := by
  obtain ⟨before, event, after, rfl, hunused, hused, hreach⟩ := hfirst
  induction before generalizing tree with
  | nil =>
    obtain rfl : tree = found := Except.ok.inj hreach
    exact if_pos hused
  | cons earlier before ih =>
    obtain ⟨hearlier, hbefore⟩ := List.forall_mem_cons.mp hunused
    rw [reach, List.foldlM_cons] at hreach
    cases hafter : earlier.after tree with
    | error fault =>
      rw [hafter] at hreach
      cases hreach
    | ok middle =>
      rw [hafter] at hreach
      rw [List.cons_append, snapshot, if_neg hearlier, hafter]
      exact ih hbefore hreach

/-- The lines that will be shown of a file: what is remembered, or else what is there when a label
first uses its name. -/
def recalled (tree : FileTree) (cache : LineCache) (events : List Event) (file : String) :
    List String :=
  (cache.lookup file).getD (heldLines (snapshot tree events file))

/-- What a renderer remembers after an event. -/
def Event.remembered (tree : FileTree) (palette : Palette) (cache : LineCache) :
    Event → LineCache
  | .show diagnostic => (render tree palette cache diagnostic).2
  | _ => cache

/-- A display goes from event to event: the files change, the renderer remembers what it showed, and
a file that cannot be written ends it. -/
theorem display_cons (palette : Palette) (tree : FileTree) (cache : LineCache) (event : Event)
    (rest : List Event) :
    display palette tree cache (event :: rest) = event.after tree >>= fun middle =>
      (display palette middle (event.remembered tree palette cache) rest).map
        (event.textOver? palette (seen tree cache) :: ·) := by
  cases event with
  | write path bytes =>
    simp only [display, Event.after]
    cases tree.install path bytes <;> rfl
  | remove path => rfl
  | «show» diagnostic =>
    simp only [display, Event.textOver?, ← (render_eq tree palette cache diagnostic).1]
    rfl

/-- What the labels of an event name is shown as the renderer sees it. -/
theorem recalled_of_named {event : Event} {file : String} (hnamed : file ∈ event.names)
    (rest : List Event) : recalled tree cache (event :: rest) file = seen tree cache file := by
  rw [recalled, snapshot, if_pos hnamed]
  rfl

/-- An event changes nothing in what will be shown of files. -/
theorem recalled_after {event : Event} {middle : FileTree} (hafter : event.after tree = .ok middle)
    (rest : List Event) :
    recalled middle (event.remembered tree palette cache) rest =
      recalled tree cache (event :: rest) := by
  have hrest (file : String) (hunnamed : file ∉ event.names) :
      snapshot tree (event :: rest) file = snapshot middle rest file := by
    rw [snapshot, if_neg hunnamed, hafter]
  funext file
  cases event with
  | write | remove =>
    rw [recalled, recalled, hrest file List.not_mem_nil]
    rfl
  | «show» diagnostic =>
    obtain ⟨-, hremembered⟩ := render_eq tree palette cache diagnostic
    by_cases hnamed : file ∈ namesOf diagnostic
    · rw [recalled_of_named hnamed, recalled, Event.remembered, hremembered, if_pos hnamed,
        Option.getD_some]
    · rw [recalled, recalled, hrest file hnamed, Event.remembered, hremembered, if_neg hnamed]

/-- A display shows each diagnostic over the lines that are remembered, or else found when a label
first uses the name of their file. -/
theorem display_eq (palette : Palette) (tree : FileTree) (cache : LineCache)
    (events : List Event) :
    display palette tree cache events = (reach tree events).map fun _ =>
      events.map (Event.textOver? palette (recalled tree cache events)) := by
  induction events generalizing tree cache with
  | nil => rfl
  | cons event rest ih =>
    rw [display_cons, reach, List.foldlM_cons, List.map_cons,
      Event.textOver?_congr fun file hnamed => recalled_of_named hnamed rest]
    cases hafter : event.after tree with
    | error fault => rfl
    | ok middle =>
      have hshown := ih middle (event.remembered tree palette cache)
      rw [recalled_after hafter] at hshown
      change (display palette middle _ rest).map _ = (reach middle rest).map _
      rw [hshown]
      cases reach middle rest <;> rfl

/-! ## Files that stay as they are -/

/-- The files are as in `found` at some moment between events. -/
def Moment (tree : FileTree) (events : List Event) (found : FileTree) : Prop :=
  ∃ before, before <+: events ∧ reach tree before = .ok found

/-- The names that labels use hold at every moment what they hold at first. -/
def Unchanged (tree : FileTree) (events : List Event) : Prop :=
  ∀ found, Moment tree events found → ∀ event ∈ events, ∀ file ∈ event.names,
    found.readText (Path.ofString file) = tree.readText (Path.ofString file)

/-- The first moment is the one before all events. -/
theorem moment_start (tree : FileTree) (events : List Event) : Moment tree events tree :=
  ⟨[], List.nil_prefix, rfl⟩

/-- A moment between later events is one between all events. -/
theorem Moment.cons {event : Event} {rest : List Event} {middle found : FileTree}
    (hafter : event.after tree = .ok middle) (hmoment : Moment middle rest found) :
    Moment tree (event :: rest) found := by
  obtain ⟨before, hbefore, hreach⟩ := hmoment
  refine ⟨event :: before, List.cons_prefix_cons.mpr ⟨rfl, hbefore⟩, ?_⟩
  rw [reach, List.foldlM_cons, hafter]
  exact hreach

/-- A snapshot of a name is taken at some moment. -/
theorem exists_moment_snapshot (tree : FileTree) (events : List Event) (file : String) :
    ∃ found, Moment tree events found ∧
      snapshot tree events file = found.readText (Path.ofString file) := by
  induction events generalizing tree with
  | nil => exact ⟨tree, moment_start tree [], rfl⟩
  | cons event rest ih =>
    by_cases hnamed : file ∈ event.names
    · exact ⟨tree, moment_start tree _, if_pos hnamed⟩
    · rw [snapshot, if_neg hnamed]
      cases hafter : event.after tree with
      | error fault => exact ⟨tree, moment_start tree _, rfl⟩
      | ok middle =>
        obtain ⟨found, hmoment, hsnapshot⟩ := ih middle
        exact ⟨found, hmoment.cons hafter, hsnapshot⟩

/-- Where nothing changes, a snapshot holds what the names that labels use hold at any moment. -/
theorem Unchanged.snapshot_eq {events : List Event} (hsame : Unchanged tree events)
    {found : FileTree} (hfound : Moment tree events found) {event : Event} (hevent : event ∈ events)
    {file : String} (hnamed : file ∈ event.names) :
    snapshot tree events file = found.readText (Path.ofString file) := by
  obtain ⟨taken, htaken, hsnapshot⟩ := exists_moment_snapshot tree events file
  rw [hsnapshot, hsame taken htaken event hevent file hnamed,
    hsame found hfound event hevent file hnamed]

/-- Diagnostics alone leave the files as they are. -/
theorem reach_show (tree : FileTree) (diagnostics : List Diagnostic) :
    reach tree (diagnostics.map .show) = .ok tree := by
  induction diagnostics with
  | nil => rfl
  | cons diagnostic rest ih => exact ih

/-- Nothing changes where diagnostics follow one another. -/
theorem unchanged_show (tree : FileTree) (diagnostics : List Diagnostic) :
    Unchanged tree (diagnostics.map .show) := by
  rintro found ⟨before, hbefore, hreach⟩ _ _ _ _
  rw [List.prefix_iff_eq_take.mp hbefore, ← List.map_take, reach_show] at hreach
  rw [Except.ok.inj hreach]

/-- Every diagnostic of a display is shown as a renderer without a cache shows it over a snapshot of
the files, in which a name holds what it held when a label first used it. If no name that labels use
changes, every diagnostic is shown as a fresh renderer shows it, whenever that one is started. -/
theorem display_snapshot (palette : Palette) (tree : FileTree) (events : List Event) :
    (display palette tree [] events = (reach tree events).map fun _ =>
        events.map (Event.textOver? palette fun file => heldLines (snapshot tree events file))) ∧
      (∀ file found, FirstUsed tree events file found →
        snapshot tree events file = found.readText (Path.ofString file)) ∧
      (Unchanged tree events → ∀ found, Moment tree events found →
        display palette tree [] events = (reach tree events).map fun _ =>
          events.map (Event.freshText? palette found)) := by
  have hshown := display_eq palette tree [] events
  refine ⟨hshown, fun _ _ => snapshot_of_firstUsed, fun hsame found hfound => ?_⟩
  have hfresh : events.map (Event.textOver? palette (recalled tree [] events)) =
      events.map (Event.freshText? palette found) := by
    refine List.map_congr_left fun event hevent => ?_
    rw [Event.freshText?_eq]
    refine Event.textOver?_congr fun file hnamed => ?_
    rw [linesOf_eq, ← hsame.snapshot_eq hfound hevent hnamed]
    rfl
  rw [hshown, hfresh]

/-- A complaint about the first line of a file under two of its names. -/
def twoNames : Diagnostic where
  severity := .error
  code := "E203"
  message := "lost"
  labels := [⟨⟨"a.cs", 1, 1, 1, 1⟩, ""⟩, ⟨⟨"./a.cs", 1, 1, 1, 1⟩, ""⟩]
  notes := []

/-- A file that is rewritten between a diagnostic with one of its names and one with both, and goes
before the last. -/
def rewriting : List Event :=
  [.write ⟨.working, ["a.cs"]⟩ [0x6e, 0x0a],
   .show { twoNames with labels := twoNames.labels.take 1 },
   .write ⟨.working, ["a.cs"]⟩ [0x72, 0x0a], .show twoNames, .remove ⟨.working, ["a.cs"]⟩,
   .show twoNames]

/-- The files while that file holds one line. -/
def withLine (letter : UInt8) : FileTree :=
  ⟨["w"], [(["w"], .directory), (["w", "a.cs"], .file [letter, 0x0a])]⟩

/-- One name of the file stands for what was written first, the other for what was written last;
diagnostics about files that stay away are shown as by a fresh renderer. -/
theorem display_snapshot_rewriting :
    snapshot (FileTree.bare ["w"]) rewriting "a.cs" = .ok "n\n" ∧
      snapshot (FileTree.bare ["w"]) rewriting "./a.cs" = .ok "r\n" ∧
      display .plain (FileTree.bare ["w"]) [] ([twoNames, twoNames].map .show) =
        .ok [some (render (FileTree.bare ["w"]) .plain [] twoNames).1,
          some (render (FileTree.bare ["w"]) .plain [] twoNames).1] := by
  refine ⟨?_, ?_, ?_⟩
  · exact (display_snapshot .plain _ rewriting).2.1 "a.cs" (withLine 0x6e)
      ⟨rewriting.take 1, _, rewriting.drop 2, rfl, by decide, by decide, rfl⟩
  · exact (display_snapshot .plain _ rewriting).2.1 "./a.cs" (withLine 0x72)
      ⟨rewriting.take 3, _, rewriting.drop 4, rfl, by decide, by decide, rfl⟩
  · exact (display_snapshot .plain _ _).2.2 (unchanged_show _ [twoNames, twoNames]) _
      (moment_start _ _)

end ILGraft.Renderer
