import ILGraft.CommandLine.Command
import ILGraft.Proofs.ControlSequences
import ILGraft.Proofs.FileContents
import Mathlib.Data.List.Basic

/-!
# What merge commands print and write

A merge command either arrives at merged lines or ends without having touched a file. It prints
the text of the lines if no file is named for it, and what it lists of snippets and diagnostics
then goes to the other stream; printed text lacks its control sequences. If a file is named, the
command changes nothing but that file, whatever the file held before and whether or not the command
has read it.
-/

namespace ILGraft

namespace FileTree

/-- A tree that holds given bytes where a path leads to in another tree, and is like that tree
everywhere else. -/
structure OnlyWrites (before after : FileTree) (path : Path) (bytes : List UInt8) : Prop where
  /-- The path leads to the one place that is filled. -/
  place : ∃ place, before.locate path = .ok place ∧
    ∀ other, after.entry? other = if other = place then some (.file bytes) else before.entry? other
  /-- The file is read back by its path. -/
  reads : after.readBytes path = .ok bytes
  /-- Relative paths start from the same directory. -/
  working : after.working = before.working

/-- Writing a file changes nothing else. -/
theorem onlyWrites_of_write {tree written : FileTree} {path : Path} {bytes : List UInt8}
    (hwrite : tree.write path bytes = .ok written) : OnlyWrites tree written path bytes := by
  have hreads := readBytes_of_write hwrite
  obtain ⟨place, hplace, hput⟩ := of_bind_ok hwrite
  split at hput
  · cases hput
  · next hfree =>
    obtain rfl := Except.ok.inj hput
    refine ⟨⟨place, hplace, entry?_put (ne_nil_of_free hfree) (.file bytes)⟩, hreads, ?_⟩
    rw [put]
    split <;> rfl

end FileTree

namespace CommandLine

/-! ## Streams -/

/-- What arrives of two transcripts is what arrives of the one and then of the other. -/
theorem textOn_append [Host] (stream : Stream) (earlier later : List Echo) :
    textOn stream (earlier ++ later) = textOn stream earlier ++ textOn stream later := by
  rw [textOn, List.filter_append, List.map_append, String.join_append]
  rfl

/-- Nothing arrives of what is said on the other stream. -/
theorem textOn_of_other [Host] {stream : Stream} {transcript : List Echo}
    (hother : ∀ echo ∈ transcript, echo.stream ≠ stream) : textOn stream transcript = "" := by
  have hnone : (transcript.filter fun echo => echo.stream == stream) = [] := by
    rw [List.filter_eq_nil_iff]
    intro echo hecho
    rw [beq_iff_eq]
    exact hother echo hecho
  rw [textOn, hnone]
  rfl

/-- The snippets that were found are shown on the stream that is meant for them. -/
theorem stream_of_mem_showFound [Host] {stream : Stream} {snippets : List Snippet}
    {placements : List Placement} {echo : Echo}
    (hecho : echo ∈ showFound stream snippets placements) : echo.stream = stream := by
  obtain ⟨snippet, -, hshown⟩ := List.mem_flatMap.mp hecho
  rcases List.mem_cons.mp hshown with rfl | hline
  · rfl
  · obtain ⟨line, -, rfl⟩ := List.mem_map.mp hline
    rfl

/-- Diagnostics are complaints. -/
theorem stream_of_mem_showDiagnostics [Host] {files : FileTree} {diagnostics : List Diagnostic}
    {echo : Echo} (hecho : echo ∈ showDiagnostics files diagnostics) : echo.stream = .errors := by
  obtain ⟨text, -, rfl⟩ := List.mem_map.mp hecho
  rfl

/-! ## Merged lines -/

variable {files : FileTree} {request : MergeRequest}

/-- What a merge command makes of its code: the configuration can be used, the code can be read, and
the snippets of its sources are injected into it. -/
def Injects [Host] (files : FileTree) (request : MergeRequest) (injection : Injection) : Prop :=
  ∃ config text document, loadConfig files request.config? = .ok config ∧
    files.readText (Path.ofString request.input) = .ok text ∧
    Document.ofText text = .ok document ∧
    Injection.run document (Source.reader files) config.languageTable = .ok injection

/-- A merge command arrives at merged lines. -/
def MergesTo [Host] (files : FileTree) (request : MergeRequest) (lines : List String) : Prop :=
  ∃ placements warnings, Injects files request (.merged lines placements warnings)

/-- A command that ends without a report does not succeed. -/
theorem aborted_ne_success (abort : Abort) : Exit.aborted abort ≠ .success := by
  intro hexit
  cases hexit

/-- A command that reports a failure does not succeed. -/
theorem failure_ne_success : Exit.failure ≠ .success := by
  decide

/-- A configuration that cannot be used is no success. -/
theorem configFailure_ne_success (error : ConfigError) : (configFailure error).exit ≠ .success := by
  intro hexit
  unfold configFailure at hexit
  split at hexit <;> cases hexit

/-- A command whose code is injected into goes on to report the injection. -/
theorem merge_of_injects [Host] {injection : Injection}
    (hinjects : Injects files request injection) :
    merge files request = finishMerge files request injection := by
  obtain ⟨config, text, document, hconfig, htext, hdocument, hrun⟩ := hinjects
  simp only [merge, hconfig, htext, hdocument, hrun]

/-- A command that arrives at merged lines ends as the delivery of their text does. -/
theorem merge_of_mergesTo [Host] {lines : List String} (hmerges : MergesTo files request lines) :
    ∃ count, (merge files request).1.exit = (deliver files request.output? lines count).1.exit ∧
      (merge files request).2 = (deliver files request.output? lines count).2 := by
  obtain ⟨placements, warnings, hinjects⟩ := hmerges
  rw [merge_of_injects hinjects]
  exact ⟨placements.length, rfl, rfl⟩

/-- A command arrives at merged lines, or it fails and leaves the files as they are. -/
theorem merge_cases [Host] (files : FileTree) (request : MergeRequest) :
    (∃ lines, MergesTo files request lines) ∨
      (merge files request).1.exit ≠ .success ∧ (merge files request).2 = files := by
  rw [merge]
  split
  · next error _ => exact .inr ⟨configFailure_ne_success error, rfl⟩
  · next config hconfig =>
    split
    · exact .inr ⟨aborted_ne_success _, rfl⟩
    · exact .inr ⟨failure_ne_success, rfl⟩
    · next text htext =>
      split
      · exact .inr ⟨aborted_ne_success _, rfl⟩
      · next document hdocument =>
        split
        · exact .inr ⟨aborted_ne_success _, rfl⟩
        · next injection hrun =>
          have hinjects : Injects files request injection :=
            ⟨config, text, document, hconfig, htext, hdocument, hrun⟩
          cases injection with
          | merged lines placements warnings => exact .inl ⟨lines, placements, warnings, hinjects⟩
          | misplaced => exact .inr ⟨failure_ne_success, rfl⟩
          | uncollected => exact .inr ⟨failure_ne_success, rfl⟩

/-- Without a file to write, the text of the lines is printed. -/
theorem deliver_printed {output? : Option String} (hprinted : output?.getD "" = "")
    (lines : List String) (count : Nat) :
    deliver files output? lines count =
      (⟨[⟨.output, Document.render lines⟩], .success⟩, files) := by
  cases output? with
  | none => rfl
  | some output =>
    rw [Option.getD_some] at hprinted
    rw [deliver, if_pos hprinted]

/-- With a file to write, the text of the lines is written, and the delivery succeeds exactly if it
can be. -/
theorem deliver_written {output : String} (hnamed : output ≠ "") (lines : List String)
    (count : Nat) :
    (∃ written, files.write (Path.ofString output)
        (Text.Utf8.encode (Document.render lines).toList) = .ok written ∧
      (deliver files (some output) lines count).1.exit = .success ∧
      (deliver files (some output) lines count).2 = written) ∨
    (∃ error, files.write (Path.ofString output)
        (Text.Utf8.encode (Document.render lines).toList) = .error error ∧
      (deliver files (some output) lines count).1.exit ≠ .success ∧
      (deliver files (some output) lines count).2 = files) := by
  cases hwrite : files.write (Path.ofString output)
      (Text.Utf8.encode (Document.render lines).toList) with
  | ok written =>
    simp only [deliver, if_neg hnamed, hwrite, true_and]
    exact .inl ⟨written, rfl, rfl⟩
  | error error =>
    simp only [deliver, if_neg hnamed, hwrite]
    exact .inr ⟨error, rfl, aborted_ne_success _, trivial⟩

/-- A command that is not told to write succeeds exactly if it arrives at merged lines. -/
theorem merge_succeeds_iff [Host] (hprinted : request.output?.getD "" = "") :
    (merge files request).1.exit = .success ↔ ∃ lines, MergesTo files request lines := by
  constructor
  · intro hsuccess
    rcases merge_cases files request with hmerges | ⟨hfails, -⟩
    · exact hmerges
    · exact absurd hsuccess hfails
  · rintro ⟨lines, hmerges⟩
    obtain ⟨count, hexit, -⟩ := merge_of_mergesTo hmerges
    rw [hexit, deliver_printed hprinted]

/-- A command that writes and succeeds has changed its output only, which holds the text of the
merged lines. -/
theorem merge_writes [Host] {output : String} (houtput : request.output? = some output)
    (hnamed : output ≠ "") (hsuccess : (merge files request).1.exit = .success) :
    ∃ lines, MergesTo files request lines ∧
      files.OnlyWrites (merge files request).2 (Path.ofString output)
        (Text.Utf8.encode (Document.render lines).toList) := by
  rcases merge_cases files request with ⟨lines, hmerges⟩ | ⟨hfails, -⟩
  · obtain ⟨count, hexit, hfiles⟩ := merge_of_mergesTo hmerges
    rw [hexit, houtput] at hsuccess
    rw [hfiles, houtput]
    rcases deliver_written hnamed lines count with
      ⟨written, hwrite, -, hwritten⟩ | ⟨error, -, hfails, -⟩
    · rw [hwritten]
      exact ⟨lines, hmerges, FileTree.onlyWrites_of_write hwrite⟩
    · exact absurd hsuccess hfails
  · exact absurd hsuccess hfails

/-- A command that does not succeed, or is not told to write, leaves the files as they are. -/
theorem merge_keeps_files [Host]
    (hidle : (merge files request).1.exit ≠ .success ∨ request.output?.getD "" = "") :
    (merge files request).2 = files := by
  rcases merge_cases files request with ⟨lines, hmerges⟩ | ⟨-, hkept⟩
  · -- Even a command that arrives at merged lines may fail, when its output cannot be written.
    obtain ⟨count, hexit, hfiles⟩ := merge_of_mergesTo hmerges
    rw [hexit] at hidle
    rw [hfiles]
    by_cases hprinted : request.output?.getD "" = ""
    · rw [deliver_printed hprinted]
    · cases houtput : request.output? with
      | none =>
        rw [houtput] at hprinted
        exact absurd rfl hprinted
      | some output =>
        rw [houtput] at hidle hprinted
        rcases deliver_written hprinted lines count with
          ⟨-, -, hsuccess, -⟩ | ⟨-, -, -, hkept⟩
        · exact absurd hsuccess (hidle.resolve_right hprinted)
        · exact hkept
  · exact hkept

/-! ## Printing and writing -/

/-- Where the text of merged lines is printed, nothing else arrives on the stream of results, if
that is no terminal. -/
theorem textOn_finishMerge [Host] (hpiped : Host.isTerminal .output = false)
    (hprints : request.output? = none) (lines : List String)
    (placements : List Placement) (warnings : List Diagnostic) :
    textOn .output (finishMerge files request (.merged lines placements warnings)).1.transcript =
      String.ofList (Host.strip (Document.render lines).toList) := by
  have hfound : ∀ echo ∈ if request.verbose then
      showFound .errors (placements.map Placement.snippet) placements else [],
      echo.stream ≠ .output := by
    intro echo hecho
    split at hecho
    · rw [stream_of_mem_showFound hecho]
      decide
    · cases hecho
  have hdiagnostics : ∀ echo ∈ showDiagnostics files warnings, echo.stream ≠ .output := by
    intro echo hecho
    rw [stream_of_mem_showDiagnostics hecho]
    decide
  have htranscript :
      (finishMerge files request (.merged lines placements warnings)).1.transcript =
        (if request.verbose then
            showFound .errors (placements.map Placement.snippet) placements else []) ++
          showDiagnostics files warnings ++ [⟨.output, Document.render lines⟩] := by
    simp only [finishMerge, hprints, deliver, Option.isNone_none, if_true, Injection.succeeded,
      Injection.lines, Injection.snippets, Injection.placements, Injection.diagnostics,
      Spoken.after]
  rw [htranscript, textOn_append, textOn_append, textOn_of_other hfound,
    textOn_of_other hdiagnostics]
  simp only [textOn, Echo.shown, List.filter_cons, BEq.rfl, if_true, List.filter_nil,
    List.map_cons, List.map_nil, String.join_cons, String.join_nil, String.empty_append,
    String.append_empty, hpiped, Bool.false_eq_true, if_false]

/-- The same request without a file to write. -/
def MergeRequest.printing (request : MergeRequest) : MergeRequest :=
  { request with output? := none }

/-- The same request with a file to write; snippets are listed or not. -/
def MergeRequest.writing (request : MergeRequest) (output : String) (verbose : Bool) :
    MergeRequest :=
  { request with output? := some output, verbose }

/-- A command that succeeds without a file to write prints the text of its merged lines without the
control sequences in it, if the stream of results is no terminal and whether or not it lists
snippets; what is printed is the text itself exactly if that holds none. With a file to write, the
command succeeds if the file can be written, and the file then holds the text as it is. -/
theorem merge_prints_or_writes [Host] (hstrips : Host.StripsSequences)
    (hpiped : Host.isTerminal .output = false) (files : FileTree) (request : MergeRequest)
    (hsuccess : (merge files request.printing).1.exit = .success) :
    ∃ lines, MergesTo files request lines ∧
      textOn .output (merge files request.printing).1.transcript =
        String.ofList (Host.strip (Document.render lines).toList) ∧
      (textOn .output (merge files request.printing).1.transcript = Document.render lines ↔
        ¬Text.Ansi.HoldsSequence (Document.render lines).toList) ∧
      ∀ output verbose, output ≠ "" →
        ((merge files (request.writing output verbose)).1.exit = .success ↔
          ∃ written, files.write (Path.ofString output)
            (Text.Utf8.encode (Document.render lines).toList) = .ok written) ∧
        ((merge files (request.writing output verbose)).1.exit = .success →
          (merge files (request.writing output verbose)).2.readBytes (Path.ofString output) =
            .ok (Text.Utf8.encode (Document.render lines).toList)) := by
  obtain ⟨lines, placements, warnings, hinjects⟩ := (merge_succeeds_iff rfl).mp hsuccess
  have hprinted : textOn .output (merge files request.printing).1.transcript =
      String.ofList (Host.strip (Document.render lines).toList) := by
    rw [merge_of_injects hinjects, textOn_finishMerge hpiped rfl]
  refine ⟨lines, ⟨placements, warnings, hinjects⟩, hprinted, ?_, ?_⟩
  · rw [hprinted, ← hstrips.strip_eq_self_iff, ← String.toList_inj, String.toList_ofList]
  · intro output verbose hnamed
    have hmerges : MergesTo files (request.writing output verbose) lines :=
      ⟨placements, warnings, hinjects⟩
    obtain ⟨count, hexit, hfiles⟩ := merge_of_mergesTo hmerges
    rcases deliver_written hnamed lines count with
      ⟨written, hwrite, hdelivered, hwritten⟩ | ⟨error, hwrite, hfails, -⟩
    · have hleft : (merge files (request.writing output verbose)).2 = written :=
        hfiles.trans hwritten
      rw [hexit, hleft]
      exact ⟨iff_of_true hdelivered ⟨written, hwrite⟩,
        fun _ => FileTree.readBytes_of_write hwrite⟩
    · rw [hexit]
      refine ⟨iff_of_false hfails ?_, fun hdelivered => absurd hdelivered hfails⟩
      rintro ⟨written, hwritten⟩
      rw [hwrite] at hwritten
      cases hwritten

/-- A tree with the disassembly of a module, and with the source file that it names. -/
def oneBlock : FileTree where
  working := ["w"]
  entries := [(["w"], .directory),
    (["w", "M.il"], .file (Text.Utf8.encode
      ".line 1,1 : 1,1 'A.cs'\nnop\n.line 5,5 : 1,1 ''\nret\n".toList)),
    (["w", "A.cs"], .file (Text.Utf8.encode "a\n#if IL\nadd\n#endif\nb\n".toList))]

/-- A request to merge that disassembly and to list its snippets. -/
def listed : MergeRequest :=
  ⟨"M.il", none, true, none⟩

/-- Merging that disassembly succeeds, prints text without control sequences, and writes it where
the disassembly was read from. -/
theorem merge_prints_or_writes_oneBlock :
    (merge oneBlock listed.printing).1.exit = .success ∧
      ∃ lines, MergesTo oneBlock listed lines ∧
        textOn .output (merge oneBlock listed.printing).1.transcript =
          String.ofList (Text.Ansi.strip (Document.render lines).toList) ∧
        (merge oneBlock (listed.writing "M.il" false)).2.readBytes (Path.ofString "M.il") =
          .ok (Text.Utf8.encode (Document.render lines).toList) := by
  have hsuccess : (merge oneBlock listed.printing).1.exit = .success := by decide +kernel
  have hwritten : (merge oneBlock (listed.writing "M.il" false)).1.exit = .success := by
    decide +kernel
  have hnamed : "M.il" ≠ "" := by decide
  obtain ⟨lines, hmerges, hprinted, -, hwrites⟩ :=
    merge_prints_or_writes Host.collecting_stripsSequences rfl oneBlock listed hsuccess
  exact ⟨hsuccess, lines, hmerges, hprinted, (hwrites "M.il" false hnamed).2 hwritten⟩

/-- A tree with a disassembly in which a comment changes the colour of what follows it. -/
def colouredComment : FileTree where
  working := ["w"]
  entries := [(["w"], .directory),
    (["w", "M.il"], .file (Text.Utf8.encode "nop // \x1b[31m\n".toList))]

/-- The colour of a comment is lost where the text is printed and kept where it is written. -/
theorem exists_printed_ne_written :
    (merge colouredComment listed.printing).1.exit = .success ∧
      (merge colouredComment (listed.writing "O.il" true)).1.exit = .success ∧
      ∃ text, (merge colouredComment (listed.writing "O.il" true)).2.readBytes
          (Path.ofString "O.il") = .ok (Text.Utf8.encode text.toList) ∧
        textOn .output (merge colouredComment listed.printing).1.transcript ≠ text :=
  ⟨by decide +kernel, by decide +kernel, "nop // \x1b[31m\n", by decide +kernel,
    by decide +kernel⟩

/-! ## Command lines -/

/-- The words behind the name of the command are read by the rules of its options. -/
theorem parse_merge (files : FileTree) (words : List String) :
    parse files ("merge" :: words) = commandRequest mergeRules (mergeRequest files) words := by
  rfl

/-- Words behind the name of the command ask for help, or to merge a file that exists. -/
theorem of_parse_merge {words : List String} {request : Request}
    (hparse : parse files ("merge" :: words) = .ok request) :
    request = .help ∨
      ∃ merging, request = .merge merging ∧ checkFile files .read merging.input = .ok () := by
  rw [parse_merge, commandRequest] at hparse
  split at hparse
  · cases hparse
  · next read _ =>
    split at hparse
    · exact .inl (Except.ok.inj hparse).symm
    · obtain ⟨checked, -, hrest⟩ := of_bind_ok hparse
      split at hrest
      · cases hrest
      · next input more _ =>
        obtain ⟨found, hfound, hmore⟩ := of_bind_ok hrest
        split at hmore
        · cases hmore
        · exact .inr ⟨_, (Except.ok.inj hmore).symm, hfound⟩

/-- A command ends with the code zero exactly if it succeeds. -/
theorem Exit.code_eq_zero_iff (exit : Exit) : exit.code = 0 ↔ exit = .success := by
  cases exit <;> simp [Exit.code]

/-- A merge command that is asked for does its work on the files of its machine. -/
theorem run_of_parse_merge [Host] {machine : Machine} {words : List String}
    (hparse : parse machine.files ("merge" :: words) = .ok (.merge request)) :
    run machine ("merge" :: words) =
      ⟨(merge machine.files request).1,
        { machine with files := (merge machine.files request).2 }⟩ := by
  rw [run, hparse]
  rfl

/-- A machine with the disassembly and its source. -/
def oneBlockMachine : Machine where
  files := oneBlock
  scratch := ["var", "tmp"]

/-- The same machine with the disassembly that names no source. -/
def colouredMachine : Machine :=
  { oneBlockMachine with files := colouredComment }

end CommandLine

end ILGraft
