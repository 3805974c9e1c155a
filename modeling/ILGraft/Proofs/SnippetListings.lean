import ILGraft.Proofs.LineCaches
import ILGraft.Proofs.MergeReports

/-!
# What listings of snippets say

Source files are listed one after the other, and all of them share the cache of the lines that
diagnostics quote. As that cache is faithful to the files, what is said of a file is what would be
said of it alone: a file with a fault neither hides nor changes what is listed of the others, and
the command fails exactly if it would fail for one of its files.
-/

namespace ILGraft.CommandLine

/-! ## Source files one by one -/

section Sources

variable {files : FileTree} {table : LanguageTable} {verbose : Bool} {cache : LineCache}

/-- What is said of a source file, and how listing it goes, does not depend on a faithful cache. -/
theorem listSource_of_faithful [Host] (hcache : Renderer.Faithful files cache)
    (table : LanguageTable) (verbose : Bool) (source : String) :
    (listSource files table verbose cache source).1 =
        (listSource files table verbose [] source).1 ∧
      (listSource files table verbose cache source).2.1 =
        (listSource files table verbose [] source).2.1 ∧
      Renderer.Faithful files (listSource files table verbose cache source).2.2 := by
  unfold listSource
  cases Collection.ofAnswer table source (Source.reader files source) with
  | ok collection => exact ⟨rfl, rfl, hcache⟩
  | error stop =>
    cases stop with
    | fault fault =>
      obtain ⟨htext, hleft⟩ :=
        Renderer.render_of_faithful hcache complaintPalette fault.diagnostic
      obtain ⟨hfresh, -⟩ := Renderer.render_of_faithful (Renderer.faithful_nil files)
        complaintPalette fault.diagnostic
      simp only [htext, hfresh]
      exact ⟨trivial, trivial, hleft⟩
    | nullInName => exact ⟨rfl, rfl, hcache⟩
    | markersNotText => exact ⟨rfl, rfl, hcache⟩

/-- A source file that can be read is listed or has a fault, if the languages are usable. -/
theorem listSource_ne_stuck [Host] (husable : table.Usable) {source : String} {bytes : List UInt8}
    (hread : files.readBytes (Path.ofString source) = .ok bytes) (abort : Abort) :
    (listSource files table verbose cache source).2.1 ≠ .stuck abort := by
  have hnull : Source.reader files source ≠ .error .nullInName := by
    intro hnull
    have hchar := (Source.reader_eq_nullInName_iff files source).mp hnull
    have hwritten := (Path.mem_toString_ofString_iff (by decide) (by decide) source).mpr hchar
    rw [(FileTree.readBytes_eq_nullInName_iff files _).mpr hwritten] at hread
    cases hread
  unfold listSource
  rcases Collection.ofAnswer_cases husable hnull with ⟨collection, hanswer, -⟩ | ⟨fault, hfault⟩
  · simp [hanswer]
  · simp [Collection.ofAnswer_of_fault hfault]

/-- How a listing goes on behind a source file, given what is said of the other files with the
cache that is left. -/
def goOn (result : List Echo × Listed × LineCache) (others : LineCache → Spoken) : Spoken :=
  match result with
  | (said, .listed, cache) => (others cache).after said
  | (said, .faulty, cache) =>
    let spoken := (others cache).after said
    match spoken.exit with
    | .success => { spoken with exit := .failure }
    | _ => spoken
  | (said, .stuck abort, _) => ⟨said, .aborted abort⟩

/-- Listing source files lists the first of them and goes on. -/
theorem listSources_cons [Host] (files : FileTree) (table : LanguageTable) (verbose : Bool)
    (cache : LineCache) (source : String) (rest : List String) :
    listSources files table verbose cache (source :: rest) =
      goOn (listSource files table verbose cache source) fun cache =>
        listSources files table verbose cache rest := by
  rfl

/-- Behind a source file that is listed, the end is that of the others. -/
theorem goOn_of_listed {result : List Echo × Listed × LineCache} (hlisted : result.2.1 = .listed)
    (others : LineCache → Spoken) :
    goOn result others = (others result.2.2).after result.1 := by
  obtain ⟨said, course, cache⟩ := result
  obtain rfl : course = .listed := hlisted
  rw [goOn]

/-- Behind a source file with a fault, the end is a failure, unless it is not reported. -/
theorem goOn_of_faulty {result : List Echo × Listed × LineCache} {others : LineCache → Spoken}
    (hfaulty : result.2.1 = .faulty)
    (hends : (others result.2.2).exit = .success ∨ (others result.2.2).exit = .failure) :
    goOn result others = ⟨result.1 ++ (others result.2.2).transcript, .failure⟩ := by
  obtain ⟨said, course, cache⟩ := result
  obtain rfl : course = .faulty := hfaulty
  rw [goOn]
  rcases hends with hexit | hexit <;> simp only [Spoken.after, hexit]

/-- What is said in parts, one after the other; it fails exactly if one of the parts does. -/
structure Spoken.Joins (joint : Spoken) (parts : List Spoken) : Prop where
  /-- What the parts say is said in their order. -/
  transcript : joint.transcript = parts.flatMap fun part => part.transcript
  /-- Nothing ends without a report. -/
  ends : ∀ spoken ∈ joint :: parts, spoken.exit = .success ∨ spoken.exit = .failure
  /-- A failure is that of a part. -/
  fails : joint.exit = .failure ↔ ∃ part ∈ parts, part.exit = .failure

/-- Saying nothing joins no parts. -/
theorem Spoken.Joins.nil : (⟨[], .success⟩ : Spoken).Joins [] where
  transcript := by simp
  ends := by simp
  fails := by simp

/-- A part that succeeds may be said in front. -/
theorem Spoken.Joins.after {joint : Spoken} {parts : List Spoken} (hjoins : joint.Joins parts)
    (said : List Echo) : (joint.after said).Joins (⟨said, .success⟩ :: parts) where
  transcript := by simp only [Spoken.after, hjoins.transcript, List.flatMap_cons]
  ends := by
    have hends := hjoins.ends
    simp only [List.forall_mem_cons] at hends ⊢
    exact ⟨hends.1, .inl trivial, hends.2⟩
  fails := by
    have hfails := hjoins.fails
    simp only [List.exists_mem_cons_iff, reduceCtorEq, false_or]
    exact hfails

/-- With a part in front that fails, the whole fails. -/
theorem Spoken.Joins.failing {joint : Spoken} {parts : List Spoken} (hjoins : joint.Joins parts)
    (said : List Echo) :
    (⟨said ++ joint.transcript, .failure⟩ : Spoken).Joins (⟨said, .failure⟩ :: parts) where
  transcript := by simp only [hjoins.transcript, List.flatMap_cons]
  ends := by
    have hends := hjoins.ends
    simp only [List.forall_mem_cons] at hends ⊢
    exact ⟨.inr trivial, .inr trivial, hends.2⟩
  fails := by simp

/-- The listing of source files joins the listings of each file alone. -/
theorem listSources_joins [Host] (hcache : Renderer.Faithful files cache) {sources : List String}
    (hgoesOn : ∀ source ∈ sources, ∀ abort,
      (listSource files table verbose [] source).2.1 ≠ .stuck abort) :
    (listSources files table verbose cache sources).Joins
      (sources.map fun source => listSources files table verbose [] [source]) := by
  induction sources generalizing cache with
  | nil => exact .nil
  | cons source rest ih =>
    obtain ⟨hfirst, hrest⟩ := List.forall_mem_cons.mp hgoesOn
    obtain ⟨hsaid, hlisted, hleft⟩ :=
      listSource_of_faithful hcache table verbose source
    have hjoins := ih hleft hrest
    rw [List.map_cons]
    have hnothing (left : LineCache) :
        listSources files table verbose left [] = ⟨[], .success⟩ := rfl
    rw [listSources_cons, listSources_cons]
    cases halone : (listSource files table verbose [] source).2.1 with
    | listed =>
      rw [goOn_of_listed (hlisted.trans halone), goOn_of_listed halone, hsaid]
      have hafter := hjoins.after (listSource files table verbose [] source).1
      simpa only [hnothing, Spoken.after, List.append_nil] using hafter
    | faulty =>
      have hends := hjoins.ends _ List.mem_cons_self
      rw [goOn_of_faulty (hlisted.trans halone) hends, goOn_of_faulty halone (.inl rfl), hsaid]
      have hfailing := hjoins.failing (listSource files table verbose [] source).1
      simpa only [hnothing, List.append_nil] using hfailing
    | stuck abort => exact absurd halone (hfirst abort)

end Sources

/-! ## Command lines -/

/-- The words that make a request to list snippets. -/
def SnippetsRequest.words (request : SnippetsRequest) : List String :=
  "snippets" :: (if request.verbose then ["-v"] else [])
    ++ (request.config?.elim [] fun name => ["--config", name]) ++ "--" :: request.sources

/-- What the options in those words set. -/
def settingsOf (verbose : Bool) (config? : Option String) : List Setting :=
  (if verbose then [("verbose", "")] else [])
    ++ (config?.elim [] fun name => [("config", name)])

/-- What the files of a request to list snippets have to be. -/
structure SnippetsRequest.Fulfillable (files : FileTree) (request : SnippetsRequest) : Prop where
  /-- There are source files. -/
  sources : request.sources ≠ []
  /-- The source files exist. -/
  read : ∀ source ∈ request.sources, checkFile files .read source = .ok ()
  /-- So does a configuration file that is named. -/
  config : ∀ name ∈ request.config?, checkFile files .read name = .ok ()

variable {files : FileTree}

/-- The value of a key was set, and the key is one that was set. -/
theorem mem_keysOf_of_lastOf {settings : List Setting} {key value : String}
    (hlast : lastOf settings key = some value) : key ∈ keysOf settings := by
  obtain ⟨before, after, hsettings, -⟩ := List.lookup_eq_some_iff.mp hlast
  have hmem : (key, value) ∈ settings.reverse := by
    rw [hsettings]
    exact List.mem_append_right _ List.mem_cons_self
  unfold keysOf
  rw [List.mem_eraseDups]
  exact List.mem_map.mpr ⟨(key, value), List.mem_reverse.mp hmem, rfl⟩

/-- A command asks for help or for what its own request says. -/
theorem of_commandRequest {rules : List OptionRule}
    {ask : WordsRead → Except Misuse Request} {words : List String} {request : Request}
    (hparse : commandRequest rules ask words = .ok request) :
    request = .help ∨ ∃ read, ask read = .ok request := by
  unfold commandRequest at hparse
  split at hparse
  · cases hparse
  · next read _ =>
    split at hparse
    · exact .inl (Except.ok.inj hparse).symm
    · exact .inr ⟨read, hparse⟩

/-- The options in front of a command ask for the version or for help. -/
theorem of_leadingRequest? {read : WordsRead} {request : Request}
    (hleading : leadingRequest? read = some request) : request = .version ∨ request = .help := by
  unfold leadingRequest? at hleading
  split at hleading
  · cases hleading
  · exact .inl (Option.some.inj hleading).symm
  · exact .inr (Option.some.inj hleading).symm

/-- Words that begin with no command ask for the version or for help. -/
theorem of_withoutCommand {words : List String} {request : Request}
    (hparse : withoutCommand words = .ok request) : request = .version ∨ request = .help := by
  unfold withoutCommand at hparse
  split at hparse
  · next hleading =>
    obtain ⟨read, -, hread⟩ := Option.bind_eq_some_iff.mp hleading
    exact Except.ok.inj hparse ▸ of_leadingRequest? hread
  · cases hparse

/-- The command that patches modules asks for nothing else. -/
theorem injectRequest_ne_snippets (read : WordsRead) (request : SnippetsRequest) :
    injectRequest files read ≠ .ok (.snippets request) := by
  intro hparse
  obtain ⟨checked, -, hrest⟩ := of_bind_ok hparse
  split at hrest <;> cases hrest

/-- The command that merges disassembled code asks for nothing else. -/
theorem mergeRequest_ne_snippets (read : WordsRead) (request : SnippetsRequest) :
    mergeRequest files read ≠ .ok (.snippets request) := by
  intro hparse
  obtain ⟨checked, -, hrest⟩ := of_bind_ok hparse
  split at hrest
  · cases hrest
  · obtain ⟨found, -, hmore⟩ := of_bind_ok hrest
    split at hmore <;> cases hmore

/-- A request to list snippets that is made can be fulfilled. -/
theorem of_snippetsRequest {read : WordsRead} {request : SnippetsRequest}
    (hparse : snippetsRequest files read = .ok (.snippets request)) :
    request.Fulfillable files := by
  obtain ⟨_, hsettings, hrest⟩ := of_bind_ok hparse
  split at hrest
  · cases hrest
  · next hsources =>
    obtain ⟨_, hread, hmade⟩ := of_bind_ok hrest
    obtain rfl := Request.snippets.inj (Except.ok.inj hmade)
    refine ⟨hsources, forM_eq_ok_iff.mp hread, fun name hname => ?_⟩
    have hlast : lastOf read.settings "config" = some name := hname
    have hchecked := forM_eq_ok_iff.mp hsettings "config" (mem_keysOf_of_lastOf hlast)
    have hrole : roleOf "config" = some .read := by decide
    rw [hrole, hlast] at hchecked
    exact hchecked

/-- A command line that asks to list snippets asks for what can be fulfilled. -/
theorem of_parse_snippets {words : List String} {request : SnippetsRequest}
    (hparse : parse files words = .ok (.snippets request)) : request.Fulfillable files := by
  unfold parse at hparse
  split at hparse
  · cases hparse
  · next read _ =>
    split at hparse
    · next hleading =>
      rcases of_leadingRequest? hleading with rfl | rfl <;> cases hparse
    · cases hparse
    · rcases of_commandRequest hparse with hhelp | ⟨asked, hasked⟩
      · cases hhelp
      · exact absurd hasked (injectRequest_ne_snippets asked request)
    · rcases of_commandRequest hparse with hhelp | ⟨asked, hasked⟩
      · cases hhelp
      · exact absurd hasked (mergeRequest_ne_snippets asked request)
    · rcases of_commandRequest hparse with hhelp | ⟨asked, hasked⟩
      · cases hhelp
      · exact of_snippetsRequest hasked
    · rcases of_withoutCommand hparse with hversion | hhelp
      · cases hversion
      · cases hhelp

/-- The words of a request that can be fulfilled make it. -/
theorem parse_words {request : SnippetsRequest} (hfulfillable : request.Fulfillable files) :
    parse files request.words = .ok (.snippets request) := by
  obtain ⟨sources, verbose, config?⟩ := request
  obtain ⟨hsources, hread, hconfig⟩ := hfulfillable
  have hverbose : isSet (settingsOf verbose config?) "verbose" = verbose := by
    cases verbose <;> cases config? <;> rfl
  have hnamed : lastOf (settingsOf verbose config?) "config" = config? := by
    cases verbose <;> cases config? <;> rfl
  have hhelp : isSet (settingsOf verbose config?) "help" = false := by
    cases verbose <;> cases config? <;> rfl
  have hsettings : checkSettings files (settingsOf verbose config?) = .ok () := by
    refine forM_eq_ok_iff.mpr fun key hkey => ?_
    have hkeys : key = "verbose" ∨ key = "config" := by
      unfold keysOf at hkey
      rw [List.mem_eraseDups] at hkey
      cases verbose <;> cases config? <;> simp_all [settingsOf]
    rcases hkeys with rfl | rfl
    · simp [roleOf]
    · have hrole : roleOf "config" = some .read := by decide
      cases config? with
      | none => simp [hnamed]
      | some name => simpa [hrole, hnamed] using hconfig name rfl
  have hwords : readWords snippetsRules true
      (SnippetsRequest.words ⟨sources, verbose, config?⟩).tail =
        some ⟨settingsOf verbose config?, sources⟩ := by
    cases verbose <;> cases config? <;> rfl
  have hparse : parse files (SnippetsRequest.words ⟨sources, verbose, config?⟩) =
      commandRequest snippetsRules (snippetsRequest files)
        (SnippetsRequest.words ⟨sources, verbose, config?⟩).tail := by
    rfl
  have hasked : snippetsRequest files ⟨settingsOf verbose config?, sources⟩ =
      .ok (.snippets ⟨sources, verbose, config?⟩) := by
    unfold snippetsRequest
    rw [hsettings, forM_eq_ok_iff.mpr hread, hverbose, hnamed]
    simp [hsources, Bind.bind, Except.bind, Pure.pure, Except.pure]
  rw [hparse, commandRequest, hwords]
  simp only [hhelp, hasked]
  simp

/-- What arrives of parts is what arrives of each, one after the other. -/
theorem textOn_flatMap [Host] {α : Type} (stream : Stream) (said : α → List Echo) (parts : List α) :
    textOn stream (parts.flatMap said) =
      String.join (parts.map fun part => textOn stream (said part)) := by
  induction parts with
  | nil => simp [textOn]
  | cons part parts ih =>
    rw [List.flatMap_cons, textOn_append, ih, List.map_cons, String.join_cons]

/-- A command that does not end without a report has the code one exactly if it fails. -/
theorem Exit.code_eq_one_iff {exit : Exit} (hends : exit = .success ∨ exit = .failure) :
    exit.code = 1 ↔ exit = .failure := by
  rcases hends with rfl | rfl <;> simp [Exit.code]

/-- A command line that asks to list snippets, with a configuration of usable languages, has one
for each of its source files alone. What arrives of it on either stream is what arrives of these,
one after the other. Each of them, and the whole, succeeds or reports a failure, and the whole fails
exactly if one of them does. -/
theorem run_snippets_one_by_one [Host] {machine : Machine} {words : List String}
    {request : SnippetsRequest} {config : Config}
    (hparse : parse machine.files words = .ok (.snippets request))
    (hconfig : loadConfig machine.files request.config? = .ok config)
    (husable : config.languageTable.Usable) :
    (∀ source ∈ request.sources,
      parse machine.files (SnippetsRequest.words { request with sources := [source] }) =
        .ok (.snippets { request with sources := [source] })) ∧
    ∀ alone : String → List String,
      (∀ source ∈ request.sources, parse machine.files (alone source) =
        .ok (.snippets { request with sources := [source] })) →
      (∀ stream, textOn stream (run machine words).transcript =
        String.join (request.sources.map fun source =>
          textOn stream (run machine (alone source)).transcript)) ∧
      ((run machine words).exit.code = 1 ↔
        ∃ source ∈ request.sources, (run machine (alone source)).exit.code = 1) ∧
      ∀ line ∈ words :: request.sources.map alone,
        ((run machine line).exit = .success ∨ (run machine line).exit = .failure) ∧
          (run machine line).machine = machine := by
  have hfulfillable := of_parse_snippets hparse
  refine ⟨fun source hmem => parse_words ⟨by simp, ?_, hfulfillable.config⟩, fun alone halone => ?_⟩
  · exact List.forall_mem_singleton.mpr (hfulfillable.read source hmem)
  have hrun {line : List String} {sources : List String}
      (hline : parse machine.files line = .ok (.snippets { request with sources })) :
      run machine line =
        ⟨listSources machine.files config.languageTable request.verbose [] sources, machine⟩ := by
    rw [run, hline]
    simp only [perform, snippets, hconfig]
  have hgoesOn : ∀ source ∈ request.sources, ∀ abort,
      (listSource machine.files config.languageTable request.verbose [] source).2.1 ≠
        .stuck abort := by
    intro source hmem
    obtain ⟨bytes, hread⟩ := readBytes_of_checkFile (hfulfillable.read source hmem)
    exact listSource_ne_stuck husable hread
  obtain ⟨htranscript, hends, hfails⟩ :=
    listSources_joins (Renderer.faithful_nil machine.files) hgoesOn
  have hwhole := @hrun words request.sources hparse
  have halones (source : String) (hmem : source ∈ request.sources) := hrun (halone source hmem)
  rw [List.forall_mem_cons, List.forall_mem_map] at hends
  refine ⟨fun stream => ?_, ?_, ?_⟩
  · rw [hwhole, htranscript, List.flatMap_map, textOn_flatMap]
    refine congrArg String.join (List.map_congr_left fun source hmem => ?_)
    rw [halones source hmem]
  · rw [hwhole, Exit.code_eq_one_iff hends.1, hfails]
    simp only [List.mem_map, exists_exists_and_eq_and]
    refine exists_congr fun source => and_congr_right fun hmem => ?_
    rw [halones source hmem, Exit.code_eq_one_iff (hends.2 source hmem)]
  · rw [List.forall_mem_cons, List.forall_mem_map, hwhole]
    refine ⟨⟨hends.1, rfl⟩, fun source hmem => ?_⟩
    rw [halones source hmem]
    exact ⟨hends.2 source hmem, rfl⟩

/-- A machine with sources of several kinds: one with a block, one whose block is left open, one
that is not UTF-8, and one of no known language. -/
def mixedMachine : Machine :=
  { oneBlockMachine with
    files := ⟨["w"], [(["w"], .directory),
      (["w", "good.cs"], .file (Text.Utf8.encode "#if IL\nnop\n#endif\n".toList)),
      (["w", "open.cs"], .file (Text.Utf8.encode "a\n#if IL\nnop\n".toList)),
      (["w", "bytes.cs"], .file [0x61, 0xff]),
      (["w", "notes.txt"], .file (Text.Utf8.encode "#if IL\nret\n#endif\n".toList))]⟩ }

/-- The blocks of two files are listed although a file in front of them, named once more behind
them, is left open, and another one cannot be read. -/
theorem run_snippets_one_by_one_mixed :
    (∀ stream, textOn stream (run mixedMachine
        ["snippets", "open.cs", "good.cs", "bytes.cs", "-v", "notes.txt", "open.cs"]).transcript =
      String.join (["open.cs", "good.cs", "bytes.cs", "notes.txt", "open.cs"].map fun source =>
        textOn stream (run mixedMachine ["snippets", "-v", source]).transcript)) ∧
      (run mixedMachine ["snippets", "-v", "good.cs"]).exit = .success ∧
      (run mixedMachine
        ["snippets", "open.cs", "good.cs", "bytes.cs", "-v", "notes.txt", "open.cs"]).exit.code =
          1 := by
  have hparse : parse mixedMachine.files
      ["snippets", "open.cs", "good.cs", "bytes.cs", "-v", "notes.txt", "open.cs"] =
        .ok (.snippets
          ⟨["open.cs", "good.cs", "bytes.cs", "notes.txt", "open.cs"], true, none⟩) := by
    decide +kernel
  have hconfig : loadConfig mixedMachine.files none = .ok {} := by
    rfl
  have halone : ∀ source ∈ ["open.cs", "good.cs", "bytes.cs", "notes.txt", "open.cs"],
      parse mixedMachine.files ["snippets", "-v", source] =
        .ok (.snippets ⟨[source], true, none⟩) := by
    decide +kernel
  obtain ⟨-, hjoined⟩ := run_snippets_one_by_one hparse hconfig (List.forall_mem_nil _)
  obtain ⟨hshown, hcode, -⟩ := hjoined (fun source => ["snippets", "-v", source]) halone
  have hopen : (run mixedMachine ["snippets", "-v", "open.cs"]).exit.code = 1 := by
    decide +kernel
  have hgood : (run mixedMachine ["snippets", "-v", "good.cs"]).exit = .success := by
    decide +kernel
  exact ⟨hshown, hgood, hcode.mpr ⟨"open.cs", List.mem_cons_self, hopen⟩⟩

end ILGraft.CommandLine
