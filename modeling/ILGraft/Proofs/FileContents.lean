import ILGraft.Machine
import ILGraft.Proofs.Results
import ILGraft.Proofs.Utf8Encoding

/-!
# What files hold

A path that is written and read again leads to the same place, and a file that was written holds
what was written. Text that is written for another program therefore reaches that program
unchanged. Where a place was removed, nothing is left below it.
-/

namespace ILGraft

namespace Text

/-- The pieces between separators are those of the library's splitting function. -/
theorem splitOn_eq (separator : Char) (text : List Char) :
    splitOn separator text = text.splitOn separator := by
  induction text with
  | nil => rfl
  | cons c rest ih =>
    rw [splitOn, ih, List.splitOn, List.splitOn, List.splitOnP_cons_eq_if_modifyHead]
    by_cases hc : c = separator
    · simp only [hc, BEq.rfl, if_true]
    · rw [if_neg hc, if_neg (by simpa using hc)]
      cases hpieces : rest.splitOnP (· == separator) with
      | nil => exact absurd hpieces (List.splitOnP_ne_nil _ _)
      | cons piece more => rfl

end Text

namespace Path

/-- The text of a path from the top is its parts, with a slash in front of each. -/
theorem toList_toString_top (parts : List String) :
    (Path.mk .top parts).toString.toList = '/' :: ['/'].intercalate (parts.map String.toList) := by
  simp only [toString, Root.text, String.toList_append, String.toList_intercalate, reduceCtorEq,
    false_and, if_false]
  rfl

private theorem suffix_intercalate (separator last : List Char) (pieces : List (List Char)) :
    last <:+ separator.intercalate (pieces ++ [last]) := by
  induction pieces with
  | nil => exact ⟨[], by rw [List.nil_append, List.nil_append, List.intercalate_singleton]⟩
  | cons piece rest ih =>
    obtain ⟨first, more, hmore⟩ : ∃ first more, rest ++ [last] = first :: more :=
      List.exists_cons_of_ne_nil (List.append_ne_nil_of_right_ne_nil _ (List.cons_ne_nil _ _))
    rw [List.cons_append, hmore, List.intercalate_cons_cons, ← hmore]
    exact ih.trans (List.suffix_append _ _)

/-- The text of a path from the top ends in its last part. -/
theorem suffix_toString_top (parts : List String) (last : String) :
    last.toList <:+ (Path.mk .top (parts ++ [last])).toString.toList := by
  rw [toList_toString_top, List.map_append, List.map_singleton]
  exact (suffix_intercalate _ _ _).trans (List.suffix_cons _ _)

/-- A path from the top whose parts are names is read from its text. -/
theorem ofString_toString_top {parts : List String} (hne : parts ≠ [])
    (hnames : ∀ part ∈ parts, IsName part) :
    ofString (Path.mk .top parts).toString = Path.mk .top parts := by
  have hslash : ∀ piece ∈ parts.map String.toList, '/' ∉ piece := by
    intro piece hpiece
    obtain ⟨part, hpart, rfl⟩ := List.mem_map.mp hpiece
    exact (hnames part hpart).2.2
  have hroot : rootOf (Path.mk .top parts).toString.toList = .top := by
    rw [toList_toString_top]
    obtain ⟨first, rest, rfl⟩ := List.exists_cons_of_ne_nil hne
    obtain ⟨hfirst, -, hnone⟩ := hnames first List.mem_cons_self
    obtain ⟨c, chars, hchars⟩ := List.exists_cons_of_ne_nil hfirst
    have hc : c ≠ '/' := fun heq => hnone (by rw [hchars, heq]; exact List.mem_cons_self)
    obtain ⟨tail, htail⟩ : ∃ tail, ['/'].intercalate ((first :: rest).map String.toList)
        = c :: tail := by
      cases rest with
      | nil => exact ⟨chars, by simp [hchars]⟩
      | cons second rest => exact ⟨_, by rw [List.map_cons, List.map_cons,
          List.intercalate_cons_cons, hchars, List.cons_append, List.cons_append]⟩
    rw [htail]
    simp only [rootOf]
    split <;> simp_all
  have hparts : ((Text.splitOn '/' (Path.mk .top parts).toString.toList).filter
      fun part => part ≠ [] ∧ part ≠ ['.']) = parts.map String.toList := by
    rw [toList_toString_top, Text.splitOn, if_pos rfl, Text.splitOn_eq,
      List.splitOn_intercalate '/' hslash (by simpa using hne)]
    rw [List.filter_cons_of_neg (by simp), List.filter_eq_self]
    intro piece hpiece
    obtain ⟨part, hpart, rfl⟩ := List.mem_map.mp hpiece
    exact decide_eq_true ⟨(hnames part hpart).1, (hnames part hpart).2.1⟩
  rw [ofString, hroot, hparts, List.map_map]
  simp

end Path

namespace FileTree

/-- Below the top, what stands at a place is looked up. -/
theorem entry?_of_ne_nil (tree : FileTree) {place : Location} (hplace : place ≠ []) :
    tree.entry? place = tree.entries.lookup place :=
  if_neg hplace

/-- A place where no directory stands is not the top. -/
theorem ne_nil_of_free {tree : FileTree} {place : Location}
    (hfree : tree.entry? place ≠ some .directory) : place ≠ [] := by
  rintro rfl
  exact hfree rfl

private theorem lookup_cons_eq (place other : Location) (entry : Entry)
    (entries : List (Location × Entry)) :
    ((place, entry) :: entries).lookup other =
      if other = place then some entry else entries.lookup other := by
  rw [List.lookup_cons]
  by_cases heq : other = place
  · rw [if_pos heq, heq, BEq.rfl]
  · rw [if_neg heq, beq_false_of_ne heq]

private theorem lookup_replace (entries : List (Location × Entry)) (place other : Location)
    (entry : Entry) :
    (entries.map fun old => if old.1 = place then (place, entry) else old).lookup other =
      if other = place then (entries.lookup place).map fun _ => entry else entries.lookup other := by
  induction entries with
  | nil => simp only [List.map_nil, List.lookup_nil, Option.map_none, ite_self]
  | cons old rest ih =>
    obtain ⟨first, held⟩ := old
    rw [List.map_cons]
    by_cases hfirst : first = place
    · simp only [hfirst, if_true, lookup_cons_eq, ih]
      split <;> rfl
    · simp only [if_neg hfirst, lookup_cons_eq, ih, if_neg (Ne.symm hfirst)]
      by_cases hother : other = place
      · rw [if_pos hother, if_neg (by rw [hother]; exact Ne.symm hfirst), if_pos hother]
      · rw [if_neg hother, if_neg hother]

/-- What stands at each place once one of them is filled. -/
theorem entry?_put {tree : FileTree} {place : Location} (hplace : place ≠ []) (entry : Entry)
    (other : Location) :
    entry? (tree.put place entry) other = if other = place then some entry
      else tree.entry? other := by
  by_cases htop : other = []
  · have hother : other ≠ place := fun heq => hplace (heq ▸ htop)
    rw [if_neg hother, htop]
    rfl
  · rw [entry?_of_ne_nil _ htop, entry?_of_ne_nil _ htop]
    rw [put]
    split
    · next hfilled =>
      rw [lookup_replace]
      obtain ⟨held, hheld⟩ := Option.isSome_iff_exists.mp hfilled
      simp only [hheld, Option.map_some]
    · next hfree =>
      rw [List.lookup_append, lookup_cons_eq, List.lookup_nil]
      by_cases hother : other = place
      · rw [Option.not_isSome_iff_eq_none] at hfree
        rw [if_pos hother, if_pos hother, hother, hfree, Option.none_or]
      · rw [if_neg hother, if_neg hother, Option.or_none]

/-- A file can be put where no directory stands without disturbing a path that could be followed
before. -/
theorem walk_put {tree : FileTree} {place target : Location} {entry : Entry}
    (hfree : tree.entry? place ≠ some .directory) {start : Location} {parts : List String}
    (hwalk : tree.walk start parts = .ok target) :
    (tree.put place entry).walk start parts = .ok target := by
  induction parts generalizing start with
  | nil => exact hwalk
  | cons part rest ih =>
    rw [walk] at hwalk ⊢
    cases hstart : tree.entry? start with
    | none => simp only [hstart, reduceCtorEq] at hwalk
    | some held =>
      cases held with
      | file bytes => simp only [hstart, reduceCtorEq] at hwalk
      | directory =>
        have hother : start ≠ place := fun heq => hfree (heq ▸ hstart)
        rw [entry?_put (ne_nil_of_free hfree), if_neg hother]
        simp only [hstart] at hwalk ⊢
        split at hwalk
        · cases hwalk
        · next hshort =>
          rw [if_neg hshort]
          exact ih hwalk

/-- A path that could be followed before a file was put where no directory stood leads to the same
place afterwards. -/
theorem locate_put {tree : FileTree} {place target : Location} {entry : Entry}
    (hfree : tree.entry? place ≠ some .directory) {path : Path}
    (hlocate : tree.locate path = .ok target) :
    (tree.put place entry).locate path = .ok target := by
  obtain ⟨accepted, htext, hwalk⟩ := of_bind_ok hlocate
  have hstart : (tree.put place entry).startOf path.root = tree.startOf path.root := by
    rw [put]
    split <;> rfl
  rw [locate, htext, hstart]
  exact walk_put hfree hwalk

/-- A file that has been written is reached by its path and holds what was written. -/
theorem readBytes_of_write {tree written : FileTree} {path : Path} {bytes : List UInt8}
    (hwrite : tree.write path bytes = .ok written) : written.readBytes path = .ok bytes := by
  obtain ⟨place, hplace, hput⟩ := of_bind_ok hwrite
  have hwritten : tree.entry? place ≠ some .directory ∧
      written = tree.put place (.file bytes) := by
    split at hput
    · cases hput
    · next hfree => exact ⟨hfree, (Except.ok.inj hput).symm⟩
  obtain ⟨hfree, rfl⟩ := hwritten
  have hentry : entry? (tree.put place (.file bytes)) place = some (.file bytes) := by
    rw [entry?_put (ne_nil_of_free hfree), if_pos rfl]
  rw [readBytes, locate_put hfree hplace]
  simp only [Bind.bind, Except.bind, hentry]
  rfl

/-- A file that has been installed holds what was written. -/
theorem readBytes_of_install {tree installed : FileTree} {path : Path} {bytes : List UInt8}
    (hinstall : tree.install path bytes = .ok installed) :
    installed.readBytes path = .ok bytes := by
  obtain ⟨accepted, -, hmake⟩ := of_bind_ok hinstall
  obtain ⟨made, -, hwrite⟩ := of_bind_ok hmake
  exact readBytes_of_write hwrite

/-- Nothing is left at a removed place or below it. -/
theorem entry?_remove {tree : FileTree} {place below : Location} (hplace : place ≠ [])
    (hbelow : place <+: below) : entry? (tree.remove place) below = none := by
  have htop : below ≠ [] := by
    rintro rfl
    exact hplace (List.prefix_nil.mp hbelow)
  rw [entry?_of_ne_nil _ htop, List.lookup_eq_none_iff]
  intro held hheld
  obtain ⟨-, hkept⟩ := List.mem_filter.mp hheld
  have houtside : below ≠ held.1 := by
    rintro rfl
    simp [List.isPrefixOf_iff_prefix.mpr hbelow] at hkept
  exact bne_iff_ne.mpr houtside

end FileTree

namespace Machine

/-- The file with a given name among the temporary files is found again by the text of its path. -/
theorem ofString_scratchFile (machine : Machine) {name : String} (hname : Path.IsName name) :
    Path.ofString (machine.scratchFile name).toString = machine.scratchFile name := by
  apply Path.ofString_toString_top
  · simp only [ne_eq, List.append_eq_nil_iff, List.cons_ne_self, and_false, not_false_eq_true]
  · intro part hpart
    rcases List.mem_append.mp hpart with habove | hlast
    · exact machine.scratch_names part habove
    · exact List.mem_singleton.mp hlast ▸ hname

/-- A command whose first argument is the file of merged code works on the text written there. -/
theorem mergedInput?_of_write {machine : Machine} {files written : FileTree} {command : Command}
    {text : String}
    (hfirst : command.arguments.head? = some (machine.scratchFile mergedName).toString)
    (hwrite : files.write (machine.scratchFile mergedName) (Text.Utf8.encode text.toList)
      = .ok written) : mergedInput? written command = some text := by
  have hsuffix : mergedName.toList.isSuffixOf (machine.scratchFile mergedName).toString.toList
      = true :=
    List.isSuffixOf_iff_suffix.mpr (Path.suffix_toString_top machine.scratch mergedName)
  have hname : Path.IsName mergedName := by decide
  rw [mergedInput?, hfirst]
  simp only [hsuffix, if_true, machine.ofString_scratchFile hname,
    FileTree.readBytes_of_write hwrite, Text.Utf8.decode_encode, Except.toOption, Option.map_some,
    String.ofList_toList]

end Machine

end ILGraft
