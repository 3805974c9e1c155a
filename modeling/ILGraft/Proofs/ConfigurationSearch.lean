import ILGraft.Proofs.ConfigurationFaults
import ILGraft.Proofs.SoundTrees

/-!
# The search for a configuration

The search begins at the place that a path resolves to, or in the directory of the file that stands
there, and climbs until a configuration file is found or the top is its own directory above. So it
always ends, and what it has found is the deepest configuration on the way to the top: a nearer one
hides those further up. Only a path that is too long for the system stops it early.
-/

namespace ILGraft.Config

open FileTree

/-! ## Climbing -/

/-- What a search that has come to a place ends with, going up as long as there is no configuration
file and another place is above. -/
inductive Climbs (tree : FileTree) : Location → Except FileError (Option Location) → Prop
  /-- The system refuses to look. -/
  | refused {place : Location} {error : FileError}
      (hlook : tree.find? (fileAt place) = .error error) : Climbs tree place (.error error)
  /-- There is a configuration file. -/
  | found {place : Location} {entry : Entry}
      (hlook : tree.find? (fileAt place) = .ok (some entry)) : Climbs tree place (.ok (some place))
  /-- There is none, and nothing is above. -/
  | ended {place : Location} (hlook : tree.find? (fileAt place) = .ok none)
      (hself : place.dropLast = place) : Climbs tree place (.ok none)
  /-- There is none, and the search goes on above. -/
  | further {place : Location} {result : Except FileError (Option Location)}
      (hlook : tree.find? (fileAt place) = .ok none) (hother : place.dropLast ≠ place)
      (habove : Climbs tree place.dropLast result) : Climbs tree place result

/-- Above the top there is nothing. -/
theorem ancestors_nil : ancestors [] = [[]] := rfl

/-- Above a place are the place that it stands in and what is above that. -/
theorem ancestors_append_singleton (place : Location) (part : String) :
    ancestors (place ++ [part]) = (place ++ [part]) :: ancestors place := by
  have hlength : (place ++ [part]).length = place.length + 1 := by
    rw [List.length_append, List.length_singleton]
  have habove (up : Nat) : (place ++ [part]).take (place.length + 1 - (up + 1)) =
      place.take (place.length - up) := by
    rw [Nat.add_sub_add_right, List.take_append_of_le_length (Nat.sub_le _ _)]
  rw [ancestors, hlength, List.range_succ_eq_map, List.map_cons, List.map_map, Nat.sub_zero,
    ← hlength, List.take_length, hlength, ancestors]
  congr 1
  exact List.map_congr_left fun up _ => habove up

/-- What one look at a place says about the end of a search that has come there. -/
theorem climbs_iff_look {tree : FileTree} {place : Location}
    {result : Except FileError (Option Location)} :
    Climbs tree place result ↔
      match tree.find? (fileAt place) with
      | .error error => result = .error error
      | .ok (some _) => result = .ok (some place)
      | .ok none =>
        if place.dropLast = place then result = .ok none
        else Climbs tree place.dropLast result := by
  constructor
  · intro hclimbs
    cases hclimbs with
    | refused hlook => rw [hlook]
    | found hlook => rw [hlook]
    | ended hlook hself => simp only [hlook, if_pos hself]
    | further hlook hother habove => simpa only [hlook, if_neg hother] using habove
  · intro hend
    split at hend
    · next hlook => exact hend ▸ .refused hlook
    · next hlook => exact hend ▸ .found hlook
    · next hlook =>
      split at hend
      · next hself => exact hend ▸ .ended hlook hself
      · next hother => exact .further hlook hother hend

/-- A search ends, whatever place it begins at, and with what the first place in the list of places
above gives. -/
theorem climbs_iff {tree : FileTree} {place : Location}
    {result : Except FileError (Option Location)} :
    Climbs tree place result ↔ firstWith tree (ancestors place) = result := by
  induction place using List.reverseRecOn with
  | nil =>
    rw [climbs_iff_look, ancestors_nil, firstWith, firstWith]
    cases tree.find? (fileAt []) with
    | error error => exact eq_comm
    | ok entry? =>
      cases entry? with
      | some entry => exact eq_comm
      | none => exact (iff_of_eq (if_pos rfl)).trans eq_comm
  | append_singleton place part ih =>
    have hother : (place ++ [part]).dropLast ≠ place ++ [part] := by simp
    rw [climbs_iff_look, ancestors_append_singleton, firstWith]
    cases tree.find? (fileAt (place ++ [part])) with
    | error error => exact eq_comm
    | ok entry? =>
      cases entry? with
      | some entry => exact eq_comm
      | none =>
        dsimp only
        rw [if_neg hother, List.dropLast_concat]
        exact ih

/-! ## The nearest configuration -/

/-- A directory in which something has the name of a configuration file. -/
def HasConfig (tree : FileTree) (place : Location) : Prop :=
  tree.entry? place = some .directory ∧ tree.entry? (place ++ [fileName]) ≠ none

instance (tree : FileTree) (place : Location) : Decidable (HasConfig tree place) :=
  inferInstanceAs (Decidable (_ ∧ _))

/-- The deepest directory with a configuration among a place and those above it. -/
structure Nearest (tree : FileTree) (start nearest : Location) : Prop where
  /-- It is the place itself or above it. -/
  above : nearest <+: start
  /-- It has a configuration. -/
  has : HasConfig tree nearest
  /-- No other of these directories that has one is deeper. -/
  deepest : ∀ other, other <+: start → HasConfig tree other → other.length ≤ nearest.length

/-- There is one nearest directory at most. -/
theorem Nearest.unique {tree : FileTree} {start nearest other : Location}
    (hnearest : Nearest tree start nearest) (hother : Nearest tree start other) :
    nearest = other := by
  have hlength : nearest.length = other.length :=
    Nat.le_antisymm (hother.deepest _ hnearest.above hnearest.has)
      (hnearest.deepest _ hother.above hother.has)
  exact (List.prefix_of_prefix_length_le hnearest.above hother.above
    (Nat.le_of_eq hlength)).eq_of_length hlength

/-- The path of a configuration file is no longer than one further down. -/
theorem utf8ByteSize_fileAt_le {place below : Location} (hplace : place.Sublist below) :
    (fileAt place).toString.utf8ByteSize ≤ (fileAt below).toString.utf8ByteSize :=
  Path.utf8ByteSize_toString_top_le (hplace.append (List.Sublist.refl [fileName]))

/-- The file of a configuration is reached by names if its directory is. -/
theorem names_fileAt {place : Location} (hplace : ∀ part ∈ place, IsEntryName part) :
    ∀ part ∈ place ++ [fileName], IsEntryName part := by
  have hname : IsEntryName fileName := by decide +kernel
  rw [List.forall_mem_append]
  exact ⟨hplace, by simpa using hname⟩

section Sound

variable {tree : FileTree} (hsound : tree.Sound)
include hsound

/-- The file of a configuration is found exactly in the directories that have one. -/
theorem find?_fileAt {place : Location} (hplace : ∀ part ∈ place, IsEntryName part)
    (hsize : (fileAt place).toString.utf8ByteSize < pathSizeLimit) :
    (∃ entry, tree.find? (fileAt place) = .ok (some entry)) ∧ HasConfig tree place ∨
      tree.find? (fileAt place) = .ok none ∧ ¬HasConfig tree place := by
  have hfind : tree.find? (fileAt place) = .ok (tree.entry? (place ++ [fileName])) :=
    hsound.find?_top (names_fileAt hplace) hsize
  rw [hfind]
  cases hentry : tree.entry? (place ++ [fileName]) with
  | none => exact .inr ⟨rfl, fun hhas => hhas.2 hentry⟩
  | some entry =>
    have hne : tree.entry? (place ++ [fileName]) ≠ none := by
      rw [hentry]
      exact nofun
    exact .inl ⟨⟨entry, rfl⟩, hsound.directory_above hne, hne⟩

/-- The first directory with a configuration on the way up is the nearest one. -/
theorem firstWith_ancestors {place : Location} (hplace : ∀ part ∈ place, IsEntryName part)
    (hsize : (fileAt place).toString.utf8ByteSize < pathSizeLimit) :
    (∃ nearest, Nearest tree place nearest ∧
      firstWith tree (ancestors place) = .ok (some nearest)) ∨
    (∀ other, other <+: place → ¬HasConfig tree other) ∧
      firstWith tree (ancestors place) = .ok none := by
  induction place using List.reverseRecOn with
  | nil =>
    rw [ancestors_nil, firstWith, firstWith]
    rcases find?_fileAt hsound hplace hsize with ⟨⟨entry, hlook⟩, hhas⟩ | ⟨hlook, hnone⟩
    · refine .inl ⟨[], ⟨List.prefix_rfl, hhas, fun other hother _ => ?_⟩, by rw [hlook]⟩
      exact hother.length_le
    · refine .inr ⟨fun other hother => ?_, by rw [hlook]⟩
      rwa [List.prefix_nil.mp hother]
  | append_singleton place part ih =>
    rw [ancestors_append_singleton, firstWith]
    have hshorter : (fileAt place).toString.utf8ByteSize < pathSizeLimit :=
      Nat.lt_of_le_of_lt (utf8ByteSize_fileAt_le (List.sublist_append_left place [part])) hsize
    have hfurther := ih (fun other hother => hplace other (List.mem_append_left _ hother)) hshorter
    rcases find?_fileAt hsound hplace hsize with ⟨⟨entry, hlook⟩, hhas⟩ | ⟨hlook, hnone⟩
    · refine .inl ⟨_, ⟨List.prefix_rfl, hhas, fun other hother _ => ?_⟩, by rw [hlook]⟩
      exact hother.length_le
    · -- What is above the place is the place itself, which has none, or above the next one.
      have hbelow {other : Location} (hother : other <+: place ++ [part])
          (hhas : HasConfig tree other) : other <+: place := by
        rcases List.prefix_concat_iff.mp hother with rfl | habove
        · exact absurd hhas hnone
        · exact habove
      rw [hlook]
      rcases hfurther with ⟨nearest, hnearest, hfirst⟩ | ⟨hnothing, hfirst⟩
      · refine .inl ⟨nearest, ⟨?_, hnearest.has, fun other hother hhas => ?_⟩, hfirst⟩
        · exact hnearest.above.trans (List.prefix_append _ _)
        · exact hnearest.deepest other (hbelow hother hhas) hhas
      · exact .inr ⟨fun other hother hhas => hnothing other (hbelow hother hhas) hhas, hfirst⟩

end Sound

/-- A search is refused if the path of the first file that it looks for is too long. -/
theorem firstWith_ancestors_of_long {tree : FileTree} {place : Location}
    (hplace : ∀ part ∈ place, IsEntryName part)
    (hsize : pathSizeLimit ≤ (fileAt place).toString.utf8ByteSize) :
    firstWith tree (ancestors place) = .error .nameTooLong := by
  have hlook : tree.find? (fileAt place) = .error .nameTooLong :=
    tree.find?_top_of_long (names_fileAt hplace) hsize
  exact climbs_iff.mp (.refused hlook)

/-! ## Where a search begins -/

/-- The directory at which a search for a place begins: a file stands for the one it is in. -/
def beginning (tree : FileTree) (place : Location) : Location :=
  match tree.entry? place with
  | some (.file _) => place.dropLast
  | _ => place

/-- A search begins at the place itself or at the one above it. -/
theorem beginning_sublist (tree : FileTree) (place : Location) :
    (beginning tree place).Sublist place := by
  rw [beginning]
  split
  · exact List.dropLast_sublist place
  · exact List.Sublist.refl place

/-- Steps by short parts without null characters lead over names. -/
theorem names_foldl_step {place : Location} {parts : List String}
    (hplace : ∀ part ∈ place, IsEntryName part)
    (hshort : ∀ part ∈ parts, part.utf8ByteSize ≤ maxPartSize)
    (hnull : ∀ part ∈ parts, '\x00' ∉ part.toList) :
    ∀ part ∈ parts.foldl step place, IsEntryName part := by
  induction parts generalizing place with
  | nil => exact hplace
  | cons part rest ih =>
    obtain ⟨hpart, hrest⟩ := List.forall_mem_cons.mp hshort
    obtain ⟨hpartNull, hrestNull⟩ := List.forall_mem_cons.mp hnull
    refine ih (fun other hother => ?_) hrest hrestNull
    rw [step] at hother
    split at hother
    · exact hplace other hother
    · next hdot =>
      split at hother
      · exact hplace other ((List.dropLast_sublist place).subset hother)
      · next hdots =>
        rcases List.mem_append.mp hother with hbefore | hlast
        · exact hplace other hbefore
        · exact List.mem_singleton.mp hlast ▸ ⟨hdot, hdots, hpart, hpartNull⟩

section Start

variable {tree : FileTree} (hsound : tree.Sound) {start : Path}
  (hshort : ∀ part ∈ start.parts, part.utf8ByteSize ≤ maxPartSize)
  (hnull : '\x00' ∉ start.toString.toList)
include hsound hshort hnull

/-- The place that a path resolves to is reached by names. -/
theorem names_resolve : ∀ part ∈ resolve tree start, IsEntryName part := by
  have hroot : ∀ part ∈ tree.startOf start.root, IsEntryName part := by
    refine hsound.names ?_
    rw [hsound.directory_startOf]
    exact nofun
  refine names_foldl_step hroot hshort fun part hpart hmem => hnull ?_
  exact (Path.mem_toString_iff (by decide) (by decide)).mpr ⟨part, hpart, hmem⟩

/-- The directory at which a search begins is reached by names. -/
theorem names_beginning : ∀ part ∈ beginning tree (resolve tree start), IsEntryName part :=
  fun part hpart => names_resolve hsound hshort hnull part ((beginning_sublist _ _).subset hpart)

/-- A search climbs from where it begins, if the place that it is for can be looked at. -/
theorem findFrom_eq
    (hsize : (Path.mk .top (resolve tree start)).toString.utf8ByteSize < pathSizeLimit) :
    findFrom tree start = (firstWith tree (ancestors (beginning tree (resolve tree start)))).map
      (Option.map fileAt) := by
  have hfind := hsound.find?_top (names_resolve hsound hshort hnull) hsize
  have haccepted : ¬start.toString.toList.contains '\x00' = true := by rwa [List.contains_iff_mem]
  simp only [findFrom, if_neg haccepted, isFile, hfind, beginning]
  cases htarget : tree.entry? (resolve tree start) with
  | none => rfl
  | some entry => cases entry <;> rfl

/-- A search is refused if the place that it is for is too deep. -/
theorem findFrom_of_long
    (hsize : pathSizeLimit ≤ (Path.mk .top (resolve tree start)).toString.utf8ByteSize) :
    findFrom tree start = .error .nameTooLong := by
  have hfind := tree.find?_top_of_long (names_resolve hsound hshort hnull) hsize
  have haccepted : ¬start.toString.toList.contains '\x00' = true := by rwa [List.contains_iff_mem]
  simp only [findFrom, if_neg haccepted, isFile, hfind]
  rfl

section Near

variable (hsize : (Path.mk .top (resolve tree start)).toString.utf8ByteSize < pathSizeLimit)
  (hfirst : (fileAt (beginning tree (resolve tree start))).toString.utf8ByteSize < pathSizeLimit)
include hsize hfirst

/-- A search ends at the nearest configuration, or without one. -/
theorem findFrom_cases :
    (∃ nearest, Nearest tree (beginning tree (resolve tree start)) nearest ∧
      findFrom tree start = .ok (some (fileAt nearest))) ∨
    (∀ other, other <+: beginning tree (resolve tree start) → ¬HasConfig tree other) ∧
      findFrom tree start = .ok none := by
  rw [findFrom_eq hsound hshort hnull hsize]
  rcases firstWith_ancestors hsound (names_beginning hsound hshort hnull) hfirst with
    ⟨nearest, hnearest, hresult⟩ | ⟨hnothing, hresult⟩
  · exact .inl ⟨nearest, hnearest, by rw [hresult]; rfl⟩
  · exact .inr ⟨hnothing, by rw [hresult]; rfl⟩

/-- A search finds the nearest configuration. -/
theorem findFrom_eq_some_iff {path : Path} :
    findFrom tree start = .ok (some path) ↔
      ∃ nearest, Nearest tree (beginning tree (resolve tree start)) nearest ∧
        path = fileAt nearest := by
  rcases findFrom_cases hsound hshort hnull hsize hfirst with
    ⟨nearest, hnearest, hfound⟩ | ⟨hnothing, hfound⟩
  · rw [hfound]
    constructor
    · intro hpath
      exact ⟨nearest, hnearest, (Option.some.inj (Except.ok.inj hpath)).symm⟩
    · rintro ⟨other, hother, rfl⟩
      rw [hnearest.unique hother]
  · rw [hfound]
    refine ⟨nofun, ?_⟩
    rintro ⟨nearest, hnearest, -⟩
    exact absurd hnearest.has (hnothing nearest hnearest.above)

/-- A search finds nothing exactly if there is no configuration on the way to the top. -/
theorem findFrom_eq_none_iff :
    findFrom tree start = .ok none ↔
      ∀ other, other <+: beginning tree (resolve tree start) → ¬HasConfig tree other := by
  rcases findFrom_cases hsound hshort hnull hsize hfirst with
    ⟨nearest, hnearest, hfound⟩ | ⟨hnothing, hfound⟩
  · rw [hfound]
    exact ⟨nofun, fun hnone => absurd hnearest.has (hnone nearest hnearest.above)⟩
  · exact ⟨fun _ => hnothing, fun _ => hfound⟩

end Near

end Start

/-! ## Loading what has been found -/

/-- A configuration that a search has found is there to be loaded: what is at its place is read, or
refused as a directory. -/
theorem load_fileAt [Host] {tree : FileTree} (hsound : tree.Sound) {place : Location}
    (hplace : ∀ part ∈ place, IsEntryName part)
    (hsize : (fileAt place).toString.utf8ByteSize < pathSizeLimit) (hhas : HasConfig tree place) :
    load tree (fileAt place) =
      match tree.entry? (place ++ [fileName]) with
      | some (.file bytes) => ofBytes (fileAt place).toString bytes
      | _ => .error (.file .isDirectory) := by
  have hlocate : tree.locate (fileAt place) = .ok (place ++ [fileName]) :=
    hsound.locate_top (names_fileAt hplace) hsize hhas.2
  rw [load, readBytes, hlocate]
  cases hentry : tree.entry? (place ++ [fileName]) with
  | none => exact absurd hentry hhas.2
  | some entry => cases entry <;> simp only [Bind.bind, Except.bind, hentry] <;> rfl

/-- The bytes of a file are never refused as the system refuses the file. -/
theorem ofBytes_ne_file [Host] (path : String) (bytes : List UInt8) (error : FileError) :
    ofBytes path bytes ≠ .error (.file error) := by
  rw [ne_eq, ofBytes_eq_error_iff]
  rintro (_ | _ | ⟨-, -, hrefused⟩)
  rcases hrefused.error_cases with hwrong | ⟨value, hkind⟩ | ⟨key, hkey⟩
  · cases hwrong
  · cases hkind
  · cases hkey

/-- A configuration that a search has found is not missing when it is loaded. -/
theorem load_fileAt_ne_missing [Host] {tree : FileTree} (hsound : tree.Sound) {place : Location}
    (hplace : ∀ part ∈ place, IsEntryName part)
    (hsize : (fileAt place).toString.utf8ByteSize < pathSizeLimit) (hhas : HasConfig tree place) :
    load tree (fileAt place) ≠ .error (.file .missing) := by
  rw [load_fileAt hsound hplace hsize hhas]
  split
  · exact ofBytes_ne_file _ _ _
  · exact nofun

/-- A search from a path ends with the configuration of the nearest directory that has one, among
the place that the path resolves to, or the one above it if a file stands there, and those above;
and with nothing exactly if none of them has one. What is loaded then is that configuration, or the
defaults. Only if the place, or the first file that is looked for, is too deep for the system, the
search is refused. -/
theorem search_finds_nearest [Host] {tree : FileTree} (hsound : tree.Sound) {start : Path}
    (hshort : ∀ part ∈ start.parts, part.utf8ByteSize ≤ maxPartSize)
    (hnull : '\x00' ∉ start.toString.toList) :
    let place := resolve tree start
    let directory := beginning tree place
    (pathSizeLimit ≤ (Path.mk .top place).toString.utf8ByteSize ∨
        pathSizeLimit ≤ (fileAt directory).toString.utf8ByteSize →
      findFrom tree start = .error .nameTooLong ∧
        loadNearest tree start = .error (.file .nameTooLong)) ∧
    ((Path.mk .top place).toString.utf8ByteSize < pathSizeLimit →
      (fileAt directory).toString.utf8ByteSize < pathSizeLimit →
      (∃ result, (∀ other, Climbs tree directory other ↔ other = result) ∧
        findFrom tree start = result.map (Option.map fileAt)) ∧
      (∀ path, findFrom tree start = .ok (some path) ↔
        ∃ nearest, Nearest tree directory nearest ∧ path = fileAt nearest) ∧
      (findFrom tree start = .ok none ↔ ∀ other, other <+: directory → ¬HasConfig tree other) ∧
      (findFrom tree start = .ok none → loadNearest tree start = .ok {}) ∧
      ∀ path, findFrom tree start = .ok (some path) →
        loadNearest tree start = load tree path ∧ load tree path ≠ .error (.file .missing)) := by
  intro place directory
  have hdirectory := names_beginning hsound hshort hnull
  constructor
  · intro hlong
    have hrefused : findFrom tree start = .error .nameTooLong := by
      by_cases hplace : pathSizeLimit ≤ (Path.mk .top place).toString.utf8ByteSize
      · exact findFrom_of_long hsound hshort hnull hplace
      · rw [findFrom_eq hsound hshort hnull (Nat.lt_of_not_le hplace),
          firstWith_ancestors_of_long hdirectory (hlong.resolve_left hplace)]
        rfl
    exact ⟨hrefused, by rw [loadNearest, hrefused]; rfl⟩
  · intro hplace hfirst
    refine ⟨⟨firstWith tree (ancestors directory), fun other => ?_, ?_⟩, fun path => ?_, ?_,
      fun hnone => ?_, fun path hpath => ?_⟩
    · rw [climbs_iff, eq_comm]
    · exact findFrom_eq hsound hshort hnull hplace
    · exact findFrom_eq_some_iff hsound hshort hnull hplace hfirst
    · exact findFrom_eq_none_iff hsound hshort hnull hplace hfirst
    · rw [loadNearest, hnone]
      rfl
    · obtain ⟨nearest, hnearest, rfl⟩ :=
        (findFrom_eq_some_iff hsound hshort hnull hplace hfirst).mp hpath
      constructor
      · rw [loadNearest, hpath]
        rfl
      · refine load_fileAt_ne_missing hsound (fun part hpart => ?_) ?_ hnearest.has
        · exact hdirectory part (hnearest.above.subset hpart)
        · exact Nat.lt_of_le_of_lt (utf8ByteSize_fileAt_le hnearest.above.sublist) hfirst

/-- A tree with a configuration at the top, which one further down hides. -/
def hiddenConfig : FileTree where
  working := ["w"]
  entries := [([fileName], .file []), (["w"], .directory), (["w", fileName], .file []),
    (["w", "in"], .directory), (["w", "in", "a.cs"], .file [])]

/-- A path to a file, through a directory that does not exist. -/
def roundabout : Path := ⟨.working, ["gone", "..", "in", "a.cs"]⟩

/-- The search from a file two directories below a configuration finds it, and not the one above
it. -/
theorem search_finds_nearest_hiddenConfig :
    (hiddenConfig.Sound ∧ (∀ part ∈ roundabout.parts, part.utf8ByteSize ≤ maxPartSize) ∧
      '\x00' ∉ roundabout.toString.toList) ∧
    findFrom hiddenConfig roundabout = .ok (some (fileAt ["w"])) ∧
    loadNearest hiddenConfig roundabout = load hiddenConfig (fileAt ["w"]) := by
  have hsound : hiddenConfig.Sound :=
    { above := by decide +kernel, named := by decide +kernel, working := by decide +kernel }
  have hshort : ∀ part ∈ roundabout.parts, part.utf8ByteSize ≤ maxPartSize := by decide +kernel
  have hnull : '\x00' ∉ roundabout.toString.toList := by decide +kernel
  have hnearest : Nearest hiddenConfig ["w", "in"] ["w"] := by
    refine ⟨by decide, by decide +kernel, fun other hother hhas => ?_⟩
    rcases List.prefix_concat_iff.mp (show other <+: ["w"] ++ ["in"] from hother) with rfl | habove
    · exact absurd hhas (by decide +kernel)
    · exact habove.length_le
  obtain ⟨-, hfound, -, -, hloaded⟩ := (search_finds_nearest hsound hshort hnull).2
    (by decide +kernel) (by decide +kernel)
  have hpath := (hfound (fileAt ["w"])).mpr ⟨_, hnearest, rfl⟩
  exact ⟨⟨hsound, hshort, hnull⟩, hpath, (hloaded _ hpath).1⟩

/-- A path that is short enough for the system, while that of a configuration there is not. -/
def deepPath : Path := ⟨.top, List.replicate 2045 "a"⟩

/-- A search is refused from a path that is short enough, with no configuration anywhere. -/
theorem search_refused_deepPath :
    (FileTree.mk [] []).Sound ∧ (∀ part ∈ deepPath.parts, part.utf8ByteSize ≤ maxPartSize) ∧
      '\x00' ∉ deepPath.toString.toList ∧ deepPath.toString.utf8ByteSize < pathSizeLimit ∧
      (∀ place, ¬HasConfig ⟨[], []⟩ place) ∧
      findFrom ⟨[], []⟩ deepPath = .error .nameTooLong ∧
      loadNearest ⟨[], []⟩ deepPath = .error (.file .nameTooLong) := by
  have hsound : (FileTree.mk [] []).Sound := ⟨⟨nofun, nofun⟩, rfl⟩
  have hparts : deepPath.parts = List.replicate 2044 "a" ++ ["a"] := List.replicate_succ'
  have hne : deepPath.parts ≠ [] := List.cons_ne_nil _ _
  have hnames : ∀ part ∈ deepPath.parts, IsEntryName part := by
    intro part hpart
    rw [List.eq_of_mem_replicate hpart]
    decide +kernel
  have hnull : '\x00' ∉ deepPath.toString.toList := by
    rw [← List.contains_iff_mem]
    exact not_contains_null hnames
  have hplace : resolve ⟨[], []⟩ deepPath = deepPath.parts :=
    (foldl_step_of_names hnames).trans (List.nil_append _)
  have hbegin : beginning ⟨[], []⟩ deepPath.parts = deepPath.parts := by
    rw [beginning, entry?_of_ne_nil _ hne]
    rfl
  have hsize : deepPath.toString.utf8ByteSize < pathSizeLimit := by
    have htext := Path.utf8ByteSize_toString_top_replicate 2044 "a" (List.cons_ne_nil "a" [])
    rw [← hparts] at htext
    have hfits : 2044 * ("a".utf8ByteSize + 1) + (Path.mk .top ["a"]).toString.utf8ByteSize <
        pathSizeLimit := by
      decide +kernel
    exact Nat.lt_of_le_of_lt (Nat.le_of_eq htext) hfits
  have hlong : pathSizeLimit ≤ (fileAt deepPath.parts).toString.utf8ByteSize := by
    rw [fileAt, hparts, List.append_assoc, List.singleton_append,
      Path.utf8ByteSize_toString_top_replicate _ _ (List.cons_ne_nil _ _)]
    decide +kernel
  have hrefused : findFrom ⟨[], []⟩ deepPath = .error .nameTooLong := by
    rw [findFrom_eq hsound (fun part hpart => (hnames part hpart).short) hnull (hplace ▸ hsize),
      hplace, hbegin, firstWith_ancestors_of_long hnames hlong]
    rfl
  refine ⟨hsound, fun part hpart => (hnames part hpart).short, hnull, hsize, ?_, hrefused, ?_⟩
  · rintro place ⟨-, hhas⟩
    exact hhas (entry?_of_ne_nil _ (List.append_ne_nil_of_right_ne_nil _ (List.cons_ne_nil _ _)))
  · rw [loadNearest, hrefused]
    rfl

end ILGraft.Config
