import ILGraft.Proofs.WrittenPaths
import Mathlib.Data.List.Basic
import Mathlib.Data.List.Induction

/-!
# Sound trees

In a sound tree the working directory is a directory and every entry stands in one, under a name
that the system accepts. There a path from the top without dots leads to the place that it spells,
and what stands at that place is found unless the path is too long. Writing files and making
directories keep a tree sound, so every tree that is made from given entries is.
-/

namespace ILGraft

/-- The characters of a path, apart from slashes and dots, are those of its parts. -/
theorem Path.mem_toString_iff {path : Path} {c : Char} (hslash : c ≠ '/') (hdot : c ≠ '.') :
    c ∈ path.toString.toList ↔ ∃ part ∈ path.parts, c ∈ part.toList := by
  have hroot : c ∉ path.root.text.toList := by
    cases path.root <;> simp [Root.text, hslash]
  have hparts : c ∈ ['/'].intercalate (path.parts.map String.toList) ↔
      ∃ part ∈ path.parts, c ∈ part.toList := by
    rw [Text.mem_intercalate_iff hslash]
    simp
  rw [toString]
  split
  · next hempty => simp [hempty.2, hdot]
  · rw [String.toList_append, String.toList_intercalate, List.mem_append, or_iff_right hroot]
    exact hparts

/-- Each part of a path from the top takes its own size and that of the slash in front of it. -/
theorem Path.utf8ByteSize_toString_top_cons (part : String) {rest : List String}
    (hne : rest ≠ []) :
    (Path.mk .top (part :: rest)).toString.utf8ByteSize =
      part.utf8ByteSize + 1 + (Path.mk .top rest).toString.utf8ByteSize := by
  have hsize (parts : List String) : (Path.mk .top parts).toString.utf8ByteSize =
      (String.ofList (['/'].intercalate (parts.map String.toList))).utf8ByteSize + 1 := by
    rw [← String.ofList_toList (s := (Path.mk .top parts).toString), toList_toString_top,
      String.ofList_cons, String.utf8ByteSize_append, Nat.add_comm]
    rfl
  obtain ⟨second, more, rfl⟩ := List.exists_cons_of_ne_nil hne
  have hslash : (String.ofList ['/']).utf8ByteSize = 1 := rfl
  rw [hsize, hsize, List.map_cons, List.map_cons, List.intercalate_cons_cons,
    String.ofList_append, String.ofList_append, String.utf8ByteSize_append,
    String.utf8ByteSize_append, String.ofList_toList]
  omega

/-- The size of a path from the top that begins with the same part many times. -/
theorem Path.utf8ByteSize_toString_top_replicate (count : Nat) (part : String)
    {rest : List String} (hne : rest ≠ []) :
    (Path.mk .top (List.replicate count part ++ rest)).toString.utf8ByteSize =
      count * (part.utf8ByteSize + 1) + (Path.mk .top rest).toString.utf8ByteSize := by
  induction count with
  | zero => rw [List.replicate_zero, List.nil_append, Nat.zero_mul, Nat.zero_add]
  | succ count ih =>
    have hmore : List.replicate count part ++ rest ≠ [] := List.append_ne_nil_of_right_ne_nil _ hne
    rw [List.replicate_succ, List.cons_append, utf8ByteSize_toString_top_cons part hmore, ih,
      Nat.succ_mul]
    omega

/-- A path from the top is no longer than one that goes on from it. -/
theorem Path.utf8ByteSize_toString_top_le {parts more : List String}
    (hsublist : parts.Sublist more) :
    (Path.mk .top parts).toString.utf8ByteSize ≤ (Path.mk .top more).toString.utf8ByteSize := by
  have hsize := Text.utf8ByteSize_ofList_le
    ((Text.intercalate_sublist ['/'] (hsublist.map String.toList)).cons_cons '/')
  rwa [← toList_toString_top, ← toList_toString_top, String.ofList_toList,
    String.ofList_toList] at hsize

namespace FileTree

/-- A name that an entry of a directory can have. -/
structure IsEntryName (part : String) : Prop where
  /-- It is not the name of the directory itself. -/
  notDot : part ≠ "."
  /-- It is not the name of the directory above. -/
  notDots : part ≠ ".."
  /-- It is not too long. -/
  short : part.utf8ByteSize ≤ maxPartSize
  /-- It holds no null character. -/
  noNull : '\x00' ∉ part.toList

instance (part : String) : Decidable (IsEntryName part) :=
  decidable_of_iff (part ≠ "." ∧ part ≠ ".." ∧ part.utf8ByteSize ≤ maxPartSize ∧
      '\x00' ∉ part.toList)
    ⟨fun ⟨hdot, hdots, hshort, hnull⟩ => ⟨hdot, hdots, hshort, hnull⟩,
      fun hname => ⟨hname.notDot, hname.notDots, hname.short, hname.noNull⟩⟩

/-- A path that is accepted holds no null character. -/
theorem no_null_of_checkText {path : Path} {accepted : Unit}
    (hchecked : checkText path.toString = .ok accepted) :
    ∀ part ∈ path.parts, '\x00' ∉ part.toList := by
  intro part hpart hnull
  have hmem : '\x00' ∈ path.toString.toList :=
    (Path.mem_toString_iff (by decide) (by decide)).mpr ⟨part, hpart, hnull⟩
  rw [checkText, if_pos (List.contains_iff_mem.mpr hmem)] at hchecked
  cases hchecked

/-- A path by names holds no null character. -/
theorem not_contains_null {place : Location} (hplace : ∀ part ∈ place, IsEntryName part) :
    ¬(Path.mk .top place).toString.toList.contains '\x00' = true := by
  rw [List.contains_iff_mem, Path.mem_toString_iff (by decide) (by decide)]
  rintro ⟨part, hpart, hmem⟩
  exact (hplace part hpart).noNull hmem

/-- A tree in which every entry has a directory above it. -/
structure Rooted (tree : FileTree) : Prop where
  /-- Every entry stands in a directory. -/
  above : ∀ held ∈ tree.entries, tree.entry? held.1.dropLast = some .directory
  /-- Every entry is reached by names. -/
  named : ∀ held ∈ tree.entries, ∀ part ∈ held.1, IsEntryName part

/-- A rooted tree in which relative paths start from a directory. -/
structure Sound (tree : FileTree) : Prop extends tree.Rooted where
  /-- The working directory is a directory. -/
  working : tree.entry? tree.working = some .directory

/-! ## Finding what stands at a place -/

/-- Steps by names go further down. -/
theorem foldl_step_of_names {place : Location} {parts : List String}
    (hparts : ∀ part ∈ parts, IsEntryName part) : parts.foldl step place = place ++ parts := by
  induction parts generalizing place with
  | nil => exact (List.append_nil place).symm
  | cons part rest ih =>
    obtain ⟨hpart, hrest⟩ := List.forall_mem_cons.mp hparts
    rw [List.foldl_cons, ih hrest, step, if_neg hpart.notDot, if_neg hpart.notDots,
      List.append_assoc, List.singleton_append]

namespace Rooted

variable {tree : FileTree}

/-- What stands below the top is one of the entries. -/
theorem mem_entries {place : Location} {entry : Entry} (hne : place ≠ [])
    (hentry : tree.entry? place = some entry) : (place, entry) ∈ tree.entries := by
  rw [entry?_of_ne_nil tree hne] at hentry
  obtain ⟨before, after, hentries, -⟩ := List.lookup_eq_some_iff.mp hentry
  rw [hentries]
  exact List.mem_append_right _ List.mem_cons_self

/-- Something stands at a place only if there is a directory above it. -/
theorem directory_above (hrooted : tree.Rooted) {place : Location} {part : String}
    (hentry : tree.entry? (place ++ [part]) ≠ none) :
    tree.entry? place = some .directory := by
  obtain ⟨entry, hentry⟩ := Option.ne_none_iff_exists'.mp hentry
  have habove := hrooted.above _ (mem_entries (by simp) hentry)
  rwa [List.dropLast_concat] at habove

/-- Something stands at a place only if there are directories all the way down to it. -/
theorem directory_on_way (hrooted : tree.Rooted) {place : Location} {part : String}
    {rest : List String} (hentry : tree.entry? (place ++ part :: rest) ≠ none) :
    tree.entry? place = some .directory := by
  induction rest using List.reverseRecOn with
  | nil => exact hrooted.directory_above hentry
  | append_singleton rest last ih =>
    refine ih ?_
    rw [← List.cons_append, ← List.append_assoc] at hentry
    rw [hrooted.directory_above hentry]
    exact nofun

/-- Whatever stands in the tree is reached by names. -/
theorem names (hrooted : tree.Rooted) {place : Location} (hentry : tree.entry? place ≠ none) :
    ∀ part ∈ place, IsEntryName part := by
  by_cases hne : place = []
  · rw [hne]
    exact List.forall_mem_nil _
  · obtain ⟨entry, hentry⟩ := Option.ne_none_iff_exists'.mp hentry
    exact hrooted.named _ (mem_entries hne hentry)

/-- Walking by names leads to the place that they spell, or ends early because nothing stands
there. -/
theorem walk_cases (hrooted : tree.Rooted) {place : Location} {parts : List String}
    (hparts : ∀ part ∈ parts, IsEntryName part) :
    tree.walk place parts = .ok (place ++ parts) ∨
      tree.entry? (place ++ parts) = none ∧
        (tree.walk place parts = .error .missing ∨
          tree.walk place parts = .error .notDirectory) := by
  induction parts generalizing place with
  | nil => exact .inl (by rw [walk, List.append_nil])
  | cons part rest ih =>
    obtain ⟨hpart, hrest⟩ := List.forall_mem_cons.mp hparts
    have hstep : step place part = place ++ [part] := by
      rw [step, if_neg hpart.notDot, if_neg hpart.notDots]
    have hnothing (hplace : tree.entry? place ≠ some .directory) :
        tree.entry? (place ++ part :: rest) = none := by
      by_contra hsome
      exact hplace (hrooted.directory_on_way hsome)
    rw [walk]
    cases hplace : tree.entry? place with
    | none => exact .inr ⟨hnothing (by simp [hplace]), .inl rfl⟩
    | some entry =>
      cases entry with
      | file bytes => exact .inr ⟨hnothing (by simp [hplace]), .inr rfl⟩
      | directory =>
        have hlater := @ih (place ++ [part]) hrest
        rw [List.append_assoc, List.singleton_append] at hlater
        simpa only [if_neg (Nat.not_lt.mpr hpart.short), hstep] using hlater

/-- A path from the top by names leads to the place that it spells, if it is not too long and
anything stands there. -/
theorem locate_top_cases (hrooted : tree.Rooted) {place : Location}
    (hplace : ∀ part ∈ place, IsEntryName part)
    (hsize : (Path.mk .top place).toString.utf8ByteSize < pathSizeLimit) :
    tree.locate ⟨.top, place⟩ = .ok place ∨
      tree.entry? place = none ∧
        (tree.locate ⟨.top, place⟩ = .error .missing ∨
          tree.locate ⟨.top, place⟩ = .error .notDirectory) := by
  have hchecked : checkText (Path.mk .top place).toString = .ok () := by
    rw [checkText, if_neg (not_contains_null hplace), if_neg (by omega)]
  have hlocate : tree.locate ⟨.top, place⟩ = tree.walk [] place := by
    rw [locate, hchecked]
    rfl
  rw [hlocate]
  exact hrooted.walk_cases hplace

/-- A path from the top by names finds what stands at the place that it spells, if it is not too
long. -/
theorem find?_top (hrooted : tree.Rooted) {place : Location}
    (hplace : ∀ part ∈ place, IsEntryName part)
    (hsize : (Path.mk .top place).toString.utf8ByteSize < pathSizeLimit) :
    tree.find? ⟨.top, place⟩ = .ok (tree.entry? place) := by
  rw [find?]
  rcases hrooted.locate_top_cases hplace hsize with hlocate | ⟨hnothing, hlocate⟩
  · rw [hlocate]
  · rcases hlocate with hlocate | hlocate <;> rw [hlocate, hnothing]

/-- A path from the top by names leads to what stands at the place that it spells, if it is not too
long. -/
theorem locate_top (hrooted : tree.Rooted) {place : Location}
    (hplace : ∀ part ∈ place, IsEntryName part)
    (hsize : (Path.mk .top place).toString.utf8ByteSize < pathSizeLimit)
    (hentry : tree.entry? place ≠ none) : tree.locate ⟨.top, place⟩ = .ok place := by
  rcases hrooted.locate_top_cases hplace hsize with hlocate | ⟨hnothing, -⟩
  · exact hlocate
  · exact absurd hnothing hentry

end Rooted

/-- A path from the top by names is refused if it is too long. -/
theorem find?_top_of_long (tree : FileTree) {place : Location}
    (hplace : ∀ part ∈ place, IsEntryName part)
    (hsize : pathSizeLimit ≤ (Path.mk .top place).toString.utf8ByteSize) :
    tree.find? ⟨.top, place⟩ = .error .nameTooLong := by
  have hnull := not_contains_null hplace
  have hchecked : checkText (Path.mk .top place).toString = .error .nameTooLong := by
    rw [checkText, if_neg hnull, if_pos hsize]
  have hlocate : tree.locate ⟨.top, place⟩ = .error .nameTooLong := by
    rw [locate, hchecked]
    rfl
  rw [find?, hlocate]

/-! ## Keeping a tree sound -/

/-- A place at which something can be put: names lead to it, through a directory above it. -/
structure Reachable (tree : FileTree) (place : Location) : Prop where
  /-- There is a directory above it. -/
  above : tree.entry? place.dropLast = some .directory
  /-- It is reached by names. -/
  named : ∀ part ∈ place, IsEntryName part

/-- Putting something at a place leaves the working directory as it is. -/
@[simp] theorem working_put (tree : FileTree) (place : Location) (entry : Entry) :
    (tree.put place entry).working = tree.working := by
  rw [put]
  split <;> rfl

/-- What is in a tree after something is put at a place was there before, or is what was put. -/
theorem mem_entries_put {tree : FileTree} {place : Location} {entry : Entry}
    {held : Location × Entry} (hheld : held ∈ (tree.put place entry).entries) :
    held ∈ tree.entries ∨ held = (place, entry) := by
  rw [put] at hheld
  split at hheld
  · obtain ⟨old, hold, rfl⟩ := List.mem_map.mp hheld
    by_cases hplace : old.1 = place
    · exact .inr (if_pos hplace)
    · rw [if_neg hplace]
      exact .inl hold
  · rcases List.mem_append.mp hheld with hold | hnew
    · exact .inl hold
    · exact .inr (List.mem_singleton.mp hnew)

/-- A directory stays where it is when something is put where none stands. -/
theorem directory_put {tree : FileTree} {place other : Location} {entry : Entry}
    (hfree : tree.entry? place ≠ some .directory) (hother : tree.entry? other = some .directory) :
    entry? (tree.put place entry) other = some .directory := by
  have hne : other ≠ place := fun heq => hfree (heq ▸ hother)
  rw [entry?_put (ne_nil_of_free hfree), if_neg hne]
  exact hother

namespace Rooted

variable {tree : FileTree}

/-- There is a directory above whatever stands in the tree. -/
theorem directory_dropLast (hrooted : tree.Rooted) {place : Location}
    (hentry : tree.entry? place ≠ none) : tree.entry? place.dropLast = some .directory := by
  cases place using List.reverseRecOn with
  | nil => rfl
  | append_singleton place part =>
    rw [List.dropLast_concat]
    exact hrooted.directory_above hentry

/-- Whatever stands in the tree stands at a reachable place. -/
theorem reachable (hrooted : tree.Rooted) {place : Location} (hentry : tree.entry? place ≠ none) :
    Reachable tree place :=
  ⟨hrooted.directory_dropLast hentry, hrooted.names hentry⟩

/-- A step from a directory leads to a reachable place. -/
theorem reachable_step (hrooted : tree.Rooted) {place : Location} {part : String}
    (hplace : tree.entry? place = some .directory) (hshort : part.utf8ByteSize ≤ maxPartSize)
    (hnull : '\x00' ∉ part.toList) : Reachable tree (step place part) := by
  have hstanding : tree.entry? place ≠ none := by rw [hplace]; exact nofun
  rw [step]
  split
  · exact hrooted.reachable hstanding
  · next hdot =>
    split
    · refine hrooted.reachable ?_
      rw [hrooted.directory_dropLast hstanding]
      exact nofun
    · next hdots =>
      constructor
      · rw [List.dropLast_concat]
        exact hplace
      · rw [List.forall_mem_append]
        exact ⟨hrooted.names hstanding, by simpa using ⟨hdot, hdots, hshort, hnull⟩⟩

/-- A walk from a reachable place leads to one. -/
theorem reachable_walk (hrooted : tree.Rooted) {start target : Location} {parts : List String}
    (hstart : Reachable tree start) (hnull : ∀ part ∈ parts, '\x00' ∉ part.toList)
    (hwalk : tree.walk start parts = .ok target) : Reachable tree target := by
  induction parts generalizing start with
  | nil => exact Except.ok.inj hwalk ▸ hstart
  | cons part rest ih =>
    obtain ⟨hpart, hrest⟩ := List.forall_mem_cons.mp hnull
    rw [walk] at hwalk
    split at hwalk
    · cases hwalk
    · cases hwalk
    · next hdirectory =>
      split at hwalk
      · cases hwalk
      · next hshort =>
        exact ih (hrooted.reachable_step hdirectory (Nat.le_of_not_lt hshort) hpart) hrest hwalk

/-- A tree stays rooted when something is put at a reachable place where no directory stands. -/
theorem put (hrooted : tree.Rooted) {place : Location} {entry : Entry}
    (hplace : Reachable tree place) (hfree : tree.entry? place ≠ some .directory) :
    (tree.put place entry).Rooted where
  above held hheld := by
    refine directory_put hfree ?_
    rcases mem_entries_put hheld with hold | rfl
    · exact hrooted.above held hold
    · exact hplace.above
  named held hheld := by
    rcases mem_entries_put hheld with hold | rfl
    · exact hrooted.named held hold
    · exact hplace.named

end Rooted

namespace Sound

variable {tree : FileTree}

/-- A tree stays sound when something is put at a reachable place where no directory stands. -/
theorem put (hsound : tree.Sound) {place : Location} {entry : Entry}
    (hplace : Reachable tree place) (hfree : tree.entry? place ≠ some .directory) :
    (tree.put place entry).Sound where
  toRooted := hsound.toRooted.put hplace hfree
  working := by
    rw [working_put]
    exact directory_put hfree hsound.working

/-- A root starts from a directory. -/
theorem directory_startOf (hsound : tree.Sound) (root : Path.Root) :
    tree.entry? (tree.startOf root) = some .directory := by
  cases root with
  | working => exact hsound.working
  | top => rfl
  | doubled => rfl

/-- Writing a file keeps a tree sound. -/
theorem write (hsound : tree.Sound) {path : Path} {bytes : List UInt8} {written : FileTree}
    (hwrite : tree.write path bytes = .ok written) : written.Sound := by
  obtain ⟨place, hlocate, hput⟩ := of_bind_ok hwrite
  obtain ⟨accepted, hchecked, hwalk⟩ := of_bind_ok hlocate
  have hstart : Reachable tree (tree.startOf path.root) := by
    refine hsound.reachable ?_
    rw [hsound.directory_startOf]
    exact nofun
  have hplace := hsound.reachable_walk hstart (no_null_of_checkText hchecked) hwalk
  split at hput
  · cases hput
  · next hfree =>
    rw [← Except.ok.inj hput]
    exact hsound.put hplace hfree

/-- Making the directories on a way keeps a tree sound. -/
theorem extend (hsound : tree.Sound) {place : Location} {parts : List String} {made : FileTree}
    (hplace : tree.entry? place = some .directory)
    (hnull : ∀ part ∈ parts, '\x00' ∉ part.toList)
    (hextend : tree.extend place parts = .ok made) : made.Sound := by
  induction parts generalizing tree place with
  | nil => exact Except.ok.inj hextend ▸ hsound
  | cons part rest ih =>
    obtain ⟨hpart, hrest⟩ := List.forall_mem_cons.mp hnull
    rw [FileTree.extend] at hextend
    split at hextend
    · cases hextend
    · next hshort =>
      have hnext := hsound.reachable_step hplace (Nat.le_of_not_lt hshort) hpart
      split at hextend
      · next hnone =>
        have hfree : tree.entry? (step place part) ≠ some .directory := by rw [hnone]; exact nofun
        refine ih (hsound.put hnext hfree) ?_ hrest hextend
        rw [entry?_put (ne_nil_of_free hfree), if_pos rfl]
      · next hdirectory => exact ih hsound hdirectory hrest hextend
      · cases hextend

/-- Making the directory that a path leads to keeps a tree sound. -/
theorem makePath (hsound : tree.Sound) {path : Path} {made : FileTree}
    (hmake : tree.makePath path = .ok made) : made.Sound := by
  obtain ⟨accepted, hchecked, hextend⟩ := of_bind_ok hmake
  exact hsound.extend (hsound.directory_startOf path.root) (no_null_of_checkText hchecked) hextend

/-- Writing a file, and making its directory first, keeps a tree sound. -/
theorem install (hsound : tree.Sound) {path : Path} {bytes : List UInt8} {installed : FileTree}
    (hinstall : tree.install path bytes = .ok installed) : installed.Sound := by
  obtain ⟨accepted, -, hmake⟩ := of_bind_ok hinstall
  obtain ⟨made, hmade, hwrite⟩ := of_bind_ok hmake
  exact (hsound.makePath hmade).write hwrite

end Sound

/-- Making the directories down to a place goes on from those down to the one above it. -/
theorem makeDirectories_append_singleton (tree : FileTree) (place : Location) (part : String) :
    tree.makeDirectories (place ++ [part]) =
      if (FileTree.entry? (tree.makeDirectories place) (place ++ [part])).isSome then
        tree.makeDirectories place
      else (tree.makeDirectories place).put (place ++ [part]) .directory := by
  have hlength : (place ++ [part]).length = place.length + 1 := by
    rw [List.length_append, List.length_singleton]
  have hwhole : (place ++ [part]).take (place.length + 1) = place ++ [part] := by
    rw [← hlength, List.take_length]
  rw [makeDirectories, hlength, List.range_succ, List.foldl_append, List.foldl_cons,
    List.foldl_nil, hwhole]
  have hsame : (List.range place.length).foldl
      (fun tree count => if (tree.entry? ((place ++ [part]).take (count + 1))).isSome then tree
        else tree.put ((place ++ [part]).take (count + 1)) .directory) tree =
      tree.makeDirectories place := by
    rw [makeDirectories]
    refine List.foldl_ext _ _ _ fun tree count hcount => ?_
    rw [List.take_append_of_le_length (List.mem_range.mp hcount)]
  rw [hsame]

/-- A working directory in which nothing lies is a sound tree. -/
theorem sound_bare {working : Location} (hworking : ∀ part ∈ working, IsEntryName part) :
    (bare working).Sound := by
  -- The directories that have been made so far are those that lead to the place so far.
  have hmade (place : Location) (hplace : ∀ part ∈ place, IsEntryName part) :
      ((FileTree.mk working []).makeDirectories place).Rooted ∧
        (∀ held ∈ ((FileTree.mk working []).makeDirectories place).entries, held.2 = .directory) ∧
        entry? ((FileTree.mk working []).makeDirectories place) place = some .directory ∧
        ((FileTree.mk working []).makeDirectories place).working = working := by
    induction place using List.reverseRecOn with
    | nil => exact ⟨⟨nofun, nofun⟩, nofun, rfl, rfl⟩
    | append_singleton place part ih =>
      have hnames : ∀ part ∈ place, IsEntryName part :=
        fun other hother => hplace other (List.mem_append_left _ hother)
      obtain ⟨hrooted, honly, hdirectory, hsame⟩ := ih hnames
      rw [makeDirectories_append_singleton]
      split
      · next hsome =>
        obtain ⟨entry, hentry⟩ := Option.isSome_iff_exists.mp hsome
        obtain rfl := honly _ (Rooted.mem_entries (by simp) hentry)
        exact ⟨hrooted, honly, hentry, hsame⟩
      · next hnone =>
        have hfree : entry? ((FileTree.mk working []).makeDirectories place) (place ++ [part]) ≠
            some .directory := fun hheld => hnone (by rw [hheld]; rfl)
        refine ⟨hrooted.put ⟨?_, hplace⟩ hfree, fun held hheld => ?_, ?_, ?_⟩
        · rwa [List.dropLast_concat]
        · rcases mem_entries_put hheld with hold | rfl
          · exact honly held hold
          · rfl
        · rw [entry?_put (ne_nil_of_free hfree), if_pos rfl]
        · rw [working_put, hsame]
  obtain ⟨hrooted, -, hdirectory, hsame⟩ := hmade working hworking
  exact ⟨hrooted, by rwa [bare, hsame]⟩

/-- Every tree that is made from given entries is sound. -/
theorem sound_ofEntries {working : Location} {entries : List (Path × Entry)} {tree : FileTree}
    (hworking : ∀ part ∈ working, IsEntryName part)
    (hmade : ofEntries working entries = .ok tree) : tree.Sound := by
  have hstart := sound_bare hworking
  rw [ofEntries] at hmade
  generalize bare working = start at hstart hmade
  induction entries generalizing start with
  | nil => exact Except.ok.inj hmade ▸ hstart
  | cons held rest ih =>
    obtain ⟨path, entry⟩ := held
    rw [List.foldlM_cons] at hmade
    obtain ⟨next, hnext, hrest⟩ := of_bind_ok hmade
    cases entry with
    | file bytes => exact ih next (hstart.install hnext) hrest
    | directory => exact ih next (hstart.makePath hnext) hrest

end FileTree

end ILGraft
