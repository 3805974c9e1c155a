import ILGraft.CommandLine.Listing
import ILGraft.Proofs.Reinjection
import Mathlib.Data.List.Nodup

/-!
# Calls of the reader

A collection calls its reader once for every source file that the document names, in the order in
which they are first named, and for no other file. It ends at the first file that has no snippets to
give. A reader may keep a state of its own, or end the collection by a cause of its own, so the calls
are written down by a reader that does what the given one does and keeps a record besides.

What is collected comes file by file, with a warning for every file whose language is a guess. No two
snippets begin in the same line of one file, and so a listing shows every snippet at its own place.
-/

namespace ILGraft

/-- Files that are listed in the order of their first appearance, each once. -/
structure FirstAppearances (named files : List String) : Prop where
  /-- No file is listed twice. -/
  nodup : files.Nodup
  /-- The files listed are those named. -/
  mem_iff : ∀ file, file ∈ files ↔ file ∈ named
  /-- A file comes before all files that are first named behind it. -/
  ordered : files.Pairwise fun one other => named.idxOf one < named.idxOf other

/-- Duplicates are dropped in favour of the first appearance. -/
theorem firstAppearances_eraseDups (named : List String) :
    FirstAppearances named named.eraseDups := by
  have hordered : named.eraseDups.Pairwise fun one other =>
      named.idxOf one < named.idxOf other := by
    induction named using List.reverseRecOn with
    | nil => exact .nil
    | append_singleton named file ih =>
      have hlater : named.eraseDups.Pairwise fun one other =>
          (named ++ [file]).idxOf one < (named ++ [file]).idxOf other := by
        refine List.Pairwise.imp_of_mem (fun hone hother hlt => ?_) ih
        rwa [List.idxOf_append_of_mem (List.mem_eraseDups.mp hone),
          List.idxOf_append_of_mem (List.mem_eraseDups.mp hother)]
      rw [List.eraseDups_append]
      by_cases hmem : file ∈ named
      · simpa [List.removeAll, hmem] using hlater
      · have hnew : ([file].removeAll named).eraseDups = [file] := by
          simp [List.removeAll, hmem, List.eraseDups_cons]
        rw [hnew, List.pairwise_append]
        refine ⟨hlater, List.pairwise_singleton _ _, fun one hone other hother => ?_⟩
        have hone := List.mem_eraseDups.mp hone
        rw [List.mem_singleton.mp hother, List.idxOf_append_of_mem hone,
          List.idxOf_append_of_notMem hmem]
        have := List.idxOf_lt_length_of_mem hone
        omega
  refine ⟨hordered.imp fun hlt heq => ?_, fun file => List.mem_eraseDups, hordered⟩
  rw [heq] at hlt
  exact Nat.lt_irrefl _ hlt

/-- The source files of a document are listed as its markers first name them. -/
theorem Document.firstAppearances_sourceFiles (document : Document) :
    FirstAppearances (Marker.switches document.markers) document.sourceFiles := by
  rw [document.sourceFiles_eq]
  exact firstAppearances_eraseDups _

/-- What a reader was asked for and what it answered, unless it ended everything by a cause of its
own. -/
structure Call (ε : Type) where
  /-- The file asked for. -/
  file : String
  /-- The answer, or the cause. -/
  answer : Except ε (Except Unreadable String)

/-- The snippets that come of a call: those of a text that was read, for the language of the file. -/
def Call.Yields {ε : Type} (table : LanguageTable) (call : Call ε) (snippets : List Snippet) :
    Prop :=
  ∃ text language, call.answer = .ok (.ok text) ∧ table.scannedAs call.file = some language ∧
    Block.scan text call.file language = .ok snippets

namespace Collection

variable {ε σ : Type} {table : LanguageTable}

/-- The reader that does what a reader does and adds every call to a record. -/
def recorded (read : String → ExceptT ε (StateM σ) (Except Unreadable String)) (file : String) :
    ExceptT ε (StateM (σ × List (Call ε))) (Except Unreadable String) :=
  fun (state, calls) =>
    let (answer, state) := (read file).run.run state
    (answer, (state, calls ++ [⟨file, answer⟩]))

/-- A collection with another one behind it. -/
def followedBy (first more : Collection) : Collection :=
  ⟨first.snippets ++ more.snippets, first.warnings ++ more.warnings⟩

/-- Two steps one after the other: a cause of the first one keeps the second from being taken. -/
private theorem run_bind_run {α β : Type} (first : ExceptT ε (StateM σ) α)
    (next : α → ExceptT ε (StateM σ) β) (state : σ) :
    (first >>= next).run.run state =
      match first.run.run state with
      | (.error cause, middle) => (.error cause, middle)
      | (.ok value, middle) => (next value).run.run middle := by
  rw [ExceptT.run_bind, StateT.run_bind]
  rcases first.run.run state with ⟨_ | _, middle⟩ <;> rfl

/-- The first of some files is read before the others, which are only read if it is collected. -/
theorem run_ofFiles_cons (read : String → ExceptT ε (StateM σ) (Except Unreadable String))
    (file : String) (rest : List String) (state : σ) :
    (ofFiles table read (file :: rest)).run.run state =
      match (read file).run.run state with
      | (.error cause, middle) => (.error cause, middle)
      | (.ok answer, middle) =>
        match ofAnswer table file answer with
        | .error stop => (.ok (.error stop), middle)
        | .ok first =>
          let (outcome, after) := (ofFiles table read rest).run.run middle
          (outcome.map fun collected => collected.map first.followedBy, after) := by
  rw [ofFiles, run_bind_run]
  rcases (read file).run.run state with ⟨cause | answer, middle⟩
  · rfl
  · dsimp only
    cases ofAnswer table file answer with
    | error stop => rfl
    | ok first =>
      dsimp only
      rw [run_bind_run]
      rcases (ofFiles table read rest).run.run middle with ⟨_ | _ | _, after⟩ <;> rfl

/-- What a row of calls has to do with the files to collect and with the outcome. -/
structure Reads (table : LanguageTable) (files : List String) (calls : List (Call ε))
    (outcome : Except ε (Except Source.Stop Collection)) : Prop where
  /-- The files are asked for from the first one on. -/
  asked : calls.map Call.file <+: files
  /-- All calls but the last one yield snippets. -/
  yielded : ∀ call ∈ calls.dropLast, ∃ snippets, call.Yields table snippets
  /-- Without a collection, the last call yields none. -/
  stopped : (∀ collection, outcome ≠ .ok (.ok collection)) →
    ∃ call, calls.getLast? = some call ∧ ∀ snippets, ¬ call.Yields table snippets
  /-- A collection has what all files yield, and a warning for every guess. -/
  completed : ∀ collection, outcome = .ok (.ok collection) →
    calls.map Call.file = files ∧
      (∃ parts, List.Forall₂ (Call.Yields table) calls parts ∧
        collection.snippets = parts.flatten) ∧
      collection.warnings = guesses table files

namespace Reads

variable {file : String} {answer : Except ε (Except Unreadable String)} {rest : List String}
  {calls : List (Call ε)} {outcome : Except ε (Except Source.Stop Collection)}

/-- Without files there is nothing to ask for. -/
theorem nil : Reads table [] ([] : List (Call ε)) (.ok (.ok ⟨[], []⟩)) where
  asked := List.prefix_rfl
  yielded := List.forall_mem_nil _
  stopped hnone := absurd rfl (hnone _)
  completed := by
    rintro _ ⟨⟩
    exact ⟨rfl, ⟨[], .nil, rfl⟩, rfl⟩

/-- A call that yields nothing is the last one. -/
theorem last (hstop : ∀ snippets, ¬ Call.Yields table ⟨file, answer⟩ snippets)
    (hnone : ∀ collection, outcome ≠ .ok (.ok collection)) :
    Reads table (file :: rest) [⟨file, answer⟩] outcome where
  asked := ⟨rest, rfl⟩
  yielded := List.forall_mem_nil _
  stopped _ := ⟨_, rfl, hstop⟩
  completed collection houtcome := absurd houtcome (hnone collection)

/-- After a call that yields snippets come those for the other files. -/
theorem cons {first : Collection} (hyields : Call.Yields table ⟨file, answer⟩ first.snippets)
    (hwarnings : first.warnings = guesses table [file])
    (hreads : Reads table rest calls outcome) :
    Reads table (file :: rest) (⟨file, answer⟩ :: calls)
      (outcome.map fun collected => collected.map first.followedBy) where
  asked := by
    rw [List.map_cons, List.cons_prefix_cons]
    exact ⟨rfl, hreads.asked⟩
  yielded := by
    cases calls with
    | nil => exact List.forall_mem_nil _
    | cons next calls =>
      rw [List.dropLast_cons_cons, List.forall_mem_cons]
      exact ⟨⟨_, hyields⟩, hreads.yielded⟩
  stopped hnone := by
    have hmore : ∀ collection, outcome ≠ .ok (.ok collection) := by
      rintro collection rfl
      exact hnone _ rfl
    obtain ⟨final, hlast, hstop⟩ := hreads.stopped hmore
    exact ⟨final, by rw [List.getLast?_cons, hlast, Option.getD_some], hstop⟩
  completed := by
    intro collection houtcome
    obtain ⟨more, rfl, rfl⟩ : ∃ more, outcome = .ok (.ok more) ∧
        collection = first.followedBy more := by
      rcases outcome with _ | _ | more
      · cases houtcome
      · cases houtcome
      · cases houtcome
        exact ⟨more, rfl, rfl⟩
    obtain ⟨hfiles, ⟨parts, hparts, hsnippets⟩, hguesses⟩ := hreads.completed more rfl
    refine ⟨by rw [List.map_cons, hfiles], ⟨first.snippets :: parts, hparts.cons hyields, ?_⟩, ?_⟩
    · rw [followedBy, hsnippets, List.flatten_cons]
    · rw [followedBy, hwarnings, hguesses, guesses_cons table file rest]

end Reads

/-- A record keeps what it has, and a recorded reader answers as it would without. -/
theorem run_recorded (read : String → ExceptT ε (StateM σ) (Except Unreadable String))
    (file : String) (state : σ) (earlier : List (Call ε)) :
    (recorded read file).run.run (state, earlier) =
      let (answer, middle) := (read file).run.run state
      (answer, (middle, earlier ++ [⟨file, answer⟩])) :=
  rfl

/-- The calls for some files, behind those of a record. -/
theorem ofFiles_reads (table : LanguageTable)
    (read : String → ExceptT ε (StateM σ) (Except Unreadable String))
    (files : List String) (state : σ) (earlier : List (Call ε)) :
    ∃ outcome after calls,
      (ofFiles table read files).run.run state = (outcome, after) ∧
      (ofFiles table (recorded read) files).run.run (state, earlier) =
        (outcome, (after, earlier ++ calls)) ∧
      Reads table files calls outcome := by
  -- Every file leaves another state and a longer record to the files behind it.
  induction files generalizing state earlier with
  | nil => exact ⟨_, state, [], rfl, by rw [List.append_nil]; rfl, .nil⟩
  | cons file rest ih =>
    rcases hread : (read file).run.run state with ⟨cause | answer, middle⟩
    · refine ⟨.error cause, middle, [⟨file, .error cause⟩], ?_, ?_, .last ?_ ?_⟩
      · rw [run_ofFiles_cons, hread]
      · rw [run_ofFiles_cons, run_recorded, hread]
      · rintro snippets ⟨text, language, hanswer, -⟩
        cases hanswer
      · rintro collection ⟨⟩
    · cases hanswer : ofAnswer table file answer with
      | error stop =>
        refine ⟨.ok (.error stop), middle, [⟨file, .ok answer⟩], ?_, ?_, .last ?_ ?_⟩
        · simp only [run_ofFiles_cons, hread, hanswer]
        · simp only [run_ofFiles_cons, run_recorded, hread, hanswer]
        · rintro snippets ⟨text, language, htext, hlanguage, hscan⟩
          cases htext
          have hok : ofAnswer table file (.ok text) = .ok ⟨snippets, guesses table [file]⟩ :=
            ofAnswer_eq_ok_iff.mpr ⟨⟨text, language, rfl, hlanguage, hscan⟩, rfl⟩
          rw [hanswer] at hok
          cases hok
        · rintro collection ⟨⟩
      | ok first =>
        obtain ⟨outcome, after, calls, hplain, hrecorded, hreads⟩ :=
          ih middle (earlier ++ [⟨file, .ok answer⟩])
        obtain ⟨⟨text, language, rfl, hlanguage, hscan⟩, hwarnings⟩ :=
          ofAnswer_eq_ok_iff.mp hanswer
        refine ⟨_, after, ⟨file, .ok (.ok text)⟩ :: calls, ?_, ?_,
          .cons ⟨text, language, rfl, hlanguage, hscan⟩ hwarnings hreads⟩
        · simp only [run_ofFiles_cons, hread, hanswer, hplain]
        · simp only [run_ofFiles_cons, run_recorded, hread, hanswer, hrecorded, List.append_assoc,
            List.singleton_append]

end Collection

/-- Of two snippets of which one precedes the other, the second one begins elsewhere. -/
theorem Snippet.Precedes.begin_ne {one other : Snippet} (hprecedes : one.Precedes other) :
    (one.file, one.first) ≠ (other.file, other.first) := by
  intro heq
  obtain ⟨hfile, hfirst⟩ := Prod.mk.inj heq
  have hgap := hprecedes hfile
  have hcovers := one.covers
  omega

namespace Call

variable {ε : Type} {table : LanguageTable} {call : Call ε} {calls : List (Call ε)}
  {snippets : List Snippet} {parts : List (List Snippet)}

/-- What a call yields belongs to its file and comes in the order of the ranges. -/
theorem Yields.ordered (hyields : call.Yields table snippets) :
    (∀ snippet ∈ snippets, snippet.file = call.file) ∧ snippets.Pairwise Snippet.Precedes := by
  obtain ⟨text, language, -, -, hscan⟩ := hyields
  obtain ⟨hall, hordered⟩ := Block.scan_ranges hscan
  refine ⟨fun snippet hmem => (hall snippet hmem).1, hordered.imp ?_⟩
  intro one other hlt _
  exact hlt

/-- What calls yield belongs to their files. -/
theorem file_mem_of_yields (hparts : List.Forall₂ (Call.Yields table) calls parts) :
    ∀ snippet ∈ parts.flatten, snippet.file ∈ calls.map Call.file := by
  induction hparts with
  | nil => exact List.forall_mem_nil _
  | cons hyields _ ih =>
    intro snippet hmem
    rw [List.flatten_cons, List.mem_append] at hmem
    rw [List.map_cons, List.mem_cons]
    exact hmem.imp (hyields.ordered.1 snippet) (ih snippet)

/-- What calls for different files yield comes in the order of the ranges. -/
theorem precedes_of_yields (hparts : List.Forall₂ (Call.Yields table) calls parts)
    (hnodup : (calls.map Call.file).Nodup) : parts.flatten.Pairwise Snippet.Precedes := by
  induction hparts with
  | nil => exact .nil
  | cons hyields hparts ih =>
    obtain ⟨hnew, hnodup⟩ := List.nodup_cons.mp hnodup
    rw [List.flatten_cons, List.pairwise_append]
    refine ⟨hyields.ordered.2, ih hnodup, fun one hone other hother hsame => ?_⟩
    -- A later snippet is from a file that is asked for later.
    rw [← hyields.ordered.1 one hone, hsame] at hnew
    exact absurd (file_mem_of_yields hparts other hother) hnew

end Call

namespace CommandLine

variable {placements : List Placement}

/-- Among placements of different snippets, a snippet is looked up at its own place. -/
theorem indexOf_own (hnodup : (placements.map Placement.snippet).Nodup) {placement : Placement}
    (hmem : placement ∈ placements) :
    indexOf placements placement.snippet = some placement.index := by
  rw [indexOf]
  cases hfind : placements.reverse.find? fun other => other.snippet = placement.snippet with
  | none =>
    have hnone := List.find?_eq_none.mp hfind placement (List.mem_reverse.mpr hmem)
    exact absurd (decide_eq_true rfl) hnone
  | some found =>
    have hsnippet : found.snippet = placement.snippet := by simpa using List.find?_some hfind
    have hfound := List.mem_reverse.mp (List.mem_of_find?_eq_some hfind)
    rw [List.inj_on_of_nodup_map hnodup hfound hmem hsnippet, Option.map_some]

/-- Placements of different snippets are shown each at its own place. -/
theorem showFound_own [Host] (stream : Stream) (hnodup : (placements.map Placement.snippet).Nodup) :
    showFound stream (placements.map Placement.snippet) placements =
      placements.flatMap fun placement =>
        showSnippet stream placement.snippet (some placement.index) := by
  rw [showFound, List.flatMap_map]
  refine List.flatMap_congr fun placement hmem => ?_
  rw [indexOf_own hnodup hmem]

end CommandLine

/-- The reader is called for every source file of a document in the order of first appearance, once
each, up to the first one that yields no snippets; a collection has what the calls yield, every
snippet with a beginning of its own, and so a listing shows every snippet at its own place. -/
theorem Collection.ofDocument_calls [Host] {ε σ : Type} (document : Document)
    (table : LanguageTable) (read : String → ExceptT ε (StateM σ) (Except Unreadable String))
    (state : σ) :
    FirstAppearances (Marker.switches document.markers) document.sourceFiles ∧
    ∃ outcome after calls,
      (ofDocument document table read).run.run state = (outcome, after) ∧
      (ofDocument document table (recorded read)).run.run (state, []) = (outcome, (after, calls)) ∧
      Reads table document.sourceFiles calls outcome ∧
      ∀ collection, outcome = .ok (.ok collection) →
        (collection.snippets.Pairwise fun one other =>
          (one.file, one.first) ≠ (other.file, other.first)) ∧
        ∀ placements, Placement.locateAll document collection.snippets = .ok placements →
          (∀ placement ∈ placements,
            CommandLine.indexOf placements placement.snippet = some placement.index) ∧
          ∀ stream, CommandLine.showFound stream collection.snippets placements =
            placements.flatMap fun placement =>
              CommandLine.showSnippet stream placement.snippet (some placement.index) := by
  have hfiles := document.firstAppearances_sourceFiles
  obtain ⟨outcome, after, calls, hplain, hrecorded, hreads⟩ :=
    ofFiles_reads table read document.sourceFiles state []
  refine ⟨hfiles, outcome, after, calls, hplain, hrecorded, hreads, fun collection hcollected => ?_⟩
  obtain ⟨hasked, ⟨parts, hparts, hsnippets⟩, -⟩ := hreads.completed collection hcollected
  have hdistinct : collection.snippets.Pairwise fun one other =>
      (one.file, one.first) ≠ (other.file, other.first) := by
    rw [hsnippets]
    exact (Call.precedes_of_yields hparts (hasked ▸ hfiles.nodup)).imp Snippet.Precedes.begin_ne
  refine ⟨hdistinct, fun placements hplacements => ?_⟩
  obtain ⟨hplaced, -⟩ := Placement.locateAll_ok hplacements
  have hnodup : (placements.map Placement.snippet).Nodup := by
    rw [hplaced]
    exact hdistinct.imp fun hne heq => hne (by rw [heq])
  refine ⟨fun placement => CommandLine.indexOf_own hnodup, fun stream => ?_⟩
  rw [← hplaced]
  exact CommandLine.showFound_own stream hnodup

end ILGraft
