import ILGraft.Proofs.ConfiguredLanguages
import ILGraft.Proofs.RunFailures
import ILGraft.Proofs.SnippetListings

/-!
# Reports on configurations

Each command that patches, merges or lists begins with its configuration. If the bytes of the file
are a configuration, the command goes on with it. If they are none, most causes are reported; but a
value of the wrong type and values that are nested too deeply end the command without a word. A
marker that is no text does so too, once the command comes to a source that would be scanned for it.
-/

namespace ILGraft.CommandLine

open ILGraft.Config

/-! ## The file of the configuration -/

/-- The commands that load a configuration, with the name that they are given for its file. -/
inductive Loads : Request → Option String → Prop
  /-- The command that patches modules. -/
  | inject (request : InjectRequest) : Loads (.inject request) request.config?
  /-- The command that merges disassembled code. -/
  | merge (request : MergeRequest) : Loads (.merge request) request.config?
  /-- The command that lists snippets. -/
  | snippets (request : SnippetsRequest) : Loads (.snippets request) request.config?

/-- The file that a configuration is loaded from: the one that is named, or else the nearest. -/
inductive LoadedFrom (files : FileTree) : Option String → Path → Prop
  /-- The file is named. -/
  | named {name : String} (hname : name ≠ "") : LoadedFrom files (some name) (Path.ofString name)
  /-- No file is named. -/
  | nearest {path : Path} (hfound : findFrom files ⟨.working, []⟩ = .ok (some path)) :
      LoadedFrom files none path
  /-- The name is empty. -/
  | unnamed {path : Path} (hfound : findFrom files ⟨.working, []⟩ = .ok (some path)) :
      LoadedFrom files (some "") path

/-- A configuration is what the bytes of its file are. -/
theorem loadConfig_eq_ofBytes [Host] {files : FileTree} {config? : Option String} {path : Path}
    {bytes : List UInt8} (hfrom : LoadedFrom files config? path)
    (hbytes : files.readBytes path = .ok bytes) :
    loadConfig files config? = ofBytes path.toString bytes := by
  have hload : load files path = ofBytes path.toString bytes := by
    rw [load, hbytes]
    rfl
  have hnearest (hfound : findFrom files ⟨.working, []⟩ = .ok (some path)) :
      loadNearest files ⟨.working, []⟩ = ofBytes path.toString bytes := by
    rw [loadNearest, hfound]
    exact hload
  cases hfrom with
  | named hname => exact (if_neg hname).trans hload
  | nearest hfound => exact hnearest hfound
  | unnamed hfound => exact hnearest hfound

/-! ## Going on -/

/-- Injects snippets into a file of disassembled code, with a configuration. -/
def mergeWith [Host] (config : Config) (files : FileTree) (request : MergeRequest) :
    Spoken × FileTree :=
  match files.readText (Path.ofString request.input) with
  | .error (.file error) => (⟨[], .aborted (.text (.file error))⟩, files)
  | .error (.encoding malformed) =>
    let complaint := "error: can't read '" ++ request.input ++ "': not valid UTF-8 ("
      ++ malformed.flaw.reason ++ ")"
    (⟨[say .errors complaint], .failure⟩, files)
  | .ok text =>
    match Document.ofText text with
    | .error fault => (⟨[], .aborted (.longNumeral fault)⟩, files)
    | .ok document =>
      match Injection.run document (Source.reader files) config.languageTable with
      | .error abort => (⟨[], .aborted abort⟩, files)
      | .ok injection => finishMerge files request injection

/-- Patches a module, with a configuration. -/
def patchWith [Host] (config : Config) (request : InjectRequest) (machine : Machine) : Ended :=
  match Toolchain.find machine config.tools with
  | .error abort => ⟨⟨[], .aborted abort⟩, machine⟩
  | .ok tools => injectWith request config tools machine

/-- Does what a request asks for, with a configuration. -/
def performWith [Host] (config : Config) (machine : Machine) : Request → Ended
  | .inject request => patchWith config request machine
  | .merge request =>
    let (spoken, files) := mergeWith config machine.files request
    ⟨spoken, { machine with files }⟩
  | .snippets request =>
    ⟨listSources machine.files config.languageTable request.verbose [] request.sources, machine⟩
  | request => perform machine request

/-- A command goes on with its configuration, or ends for want of one. -/
theorem perform_eq_performWith [Host] {machine : Machine} {request : Request}
    {config? : Option String} (hloads : Loads request config?) :
    perform machine request =
      match loadConfig machine.files config? with
      | .ok config => performWith config machine request
      | .error error => ⟨configFailure error, machine⟩ := by
  cases hloads with
  | inject request =>
    simp only [perform, inject]
    cases loadConfig machine.files request.config? <;> rfl
  | merge request =>
    simp only [perform, merge]
    cases loadConfig machine.files request.config? <;> rfl
  | snippets request =>
    simp only [perform, snippets]
    cases loadConfig machine.files request.config? <;> rfl

/-! ## Coming to a source -/

/-- A source file behind which a listing goes on: its snippets are listed, or its fault is. -/
def Listable (table : LanguageTable) (read : Reader) (file : String) : Prop :=
  ∀ stop, Collection.ofAnswer table file (read file) = .error stop → ∃ fault, stop = .fault fault

/-- The sources that a command comes to: they can be read, and no source in front of them ends
it. -/
inductive Reaches (config : Config) (machine : Machine) : Request → String → Prop
  /-- A source of a module that is patched, as its disassembled code names it. -/
  | inject {request : InjectRequest} {tools : Toolchain} {files : FileTree} {document : Document}
      {file : String} (htools : Toolchain.find machine config.tools = .ok tools)
      (hdisassembles :
        (moduleRequest request config tools).Disassembles machine.withDirectory files)
      (hread : ModuleRequest.readDocument files (machine.scratchFile "original.il") = .ok document)
      (hreached : Reached (Source.reader files)
        (Injection.Collected config.languageTable (Source.reader files)) document.sourceFiles
        file) : Reaches config machine (.inject request) file
  /-- A source that disassembled code names. -/
  | merge {request : MergeRequest} {text : String} {document : Document} {file : String}
      (htext : machine.files.readText (Path.ofString request.input) = .ok text)
      (hdocument : Document.ofText text = .ok document)
      (hreached : Reached (Source.reader machine.files)
        (Injection.Collected config.languageTable (Source.reader machine.files))
        document.sourceFiles file) : Reaches config machine (.merge request) file
  /-- A source whose snippets are to be listed. -/
  | snippets {request : SnippetsRequest} {file : String}
      (hreached : Reached (Source.reader machine.files)
        (Listable config.languageTable (Source.reader machine.files)) request.sources file) :
      Reaches config machine (.snippets request) file

section Listings

variable {files : FileTree} {table : LanguageTable} {verbose : Bool} {cache : LineCache}

/-- How the listing of a source goes is decided by what is collected from it. -/
theorem listSource_cases [Host] (files : FileTree) (table : LanguageTable) (verbose : Bool)
    (cache : LineCache) (source : String) :
    Listable table (Source.reader files) source ∧
        ((listSource files table verbose cache source).2.1 = .listed ∨
          (listSource files table verbose cache source).2.1 = .faulty) ∨
      ∃ abort, (listSource files table verbose cache source).2.1 = .stuck abort ∧
        ¬Listable table (Source.reader files) source ∧
        (abort = .notText ↔
          Collection.ofAnswer table source (Source.reader files source) =
            .error .markersNotText) := by
  unfold listSource Listable
  cases Collection.ofAnswer table source (Source.reader files source) with
  | ok collection => exact .inl ⟨nofun, .inl rfl⟩
  | error stop =>
    cases stop with
    | fault fault => exact .inl ⟨by simp, .inr rfl⟩
    | nullInName => exact .inr ⟨.nullInName, rfl, by simp, by simp⟩
    | markersNotText => exact .inr ⟨.notText, rfl, by simp, by simp⟩

/-- Behind a source that does not end it, a listing ends without a report exactly if the listing of
the other sources does. -/
theorem exit_goOn_eq_aborted_iff {result : List Echo × Listed × LineCache}
    {others : LineCache → Spoken} {abort : Abort}
    (hgoesOn : result.2.1 = .listed ∨ result.2.1 = .faulty) :
    (goOn result others).exit = .aborted abort ↔
      (others result.2.2).exit = .aborted abort := by
  obtain ⟨said, course, cache⟩ := result
  rcases hgoesOn with rfl | rfl
  · exact Iff.rfl
  · simp only [goOn, Spoken.after]
    cases hexit : (others cache).exit <;> simp

/-- A source that ends a listing is the last one. -/
theorem exit_goOn_of_stuck {result : List Echo × Listed × LineCache} {others : LineCache → Spoken}
    {abort : Abort} (hstuck : result.2.1 = .stuck abort) :
    (goOn result others).exit = .aborted abort := by
  obtain ⟨said, course, cache⟩ := result
  obtain rfl : course = .stuck abort := hstuck
  rfl

/-- A listing is ended by markers exactly if it comes to a source whose language cannot be used. -/
theorem listSources_eq_notText_iff [Host] {sources : List String} :
    (listSources files table verbose cache sources).exit = .aborted .notText ↔
      ∃ file, Reached (Source.reader files) (Listable table (Source.reader files)) sources file ∧
        table.choose file = .unusable := by
  induction sources generalizing cache with
  | nil =>
    refine iff_of_false nofun ?_
    rintro ⟨file, ⟨before, after, hfiles, -⟩, -⟩
    exact absurd hfiles (by simp)
  | cons source rest ih =>
    rw [listSources_cons]
    simp only [reached_cons_iff, or_and_right, exists_or, and_assoc, exists_eq_left']
    have hanswer := @Collection.ofAnswer_eq_markersNotText_iff table source
      (Source.reader files source)
    rcases listSource_cases files table verbose cache source with
      ⟨hlistable, hgoesOn⟩ | ⟨abort, hstuck, hnot, habort⟩
    · rw [exit_goOn_eq_aborted_iff hgoesOn, ih]
      constructor
      · rintro ⟨file, hreached, hunusable⟩
        exact .inr ⟨file, hlistable, hreached, hunusable⟩
      · rintro (hfirst | ⟨file, -, hreached, hunusable⟩)
        · obtain ⟨_, hfault⟩ := hlistable _ (hanswer.mpr hfirst)
          cases hfault
        · exact ⟨file, hreached, hunusable⟩
    · rw [exit_goOn_of_stuck hstuck, Exit.aborted.injEq, habort, hanswer]
      constructor
      · exact .inl
      · rintro (hfirst | ⟨file, hlistable, -⟩)
        · exact hfirst
        · exact absurd hlistable hnot

end Listings

/-! ## Ends of commands -/

section Ends

variable {config : Config} {machine : Machine}

/-- Merged code is handed over, or the file for it cannot be written. -/
theorem exit_finishMerge_ne_notText [Host] (files : FileTree) (request : MergeRequest)
    (injection : Injection) :
    (finishMerge files request injection).1.exit ≠ .aborted .notText := by
  have hdeliver (output? : Option String) (lines : List String) (count : Nat) :
      (deliver files output? lines count).1.exit ≠ .aborted .notText := by
    unfold deliver
    cases output? with
    | none => exact nofun
    | some output =>
      by_cases hempty : output = ""
      · simp [hempty]
      · cases hwrite : files.write (Path.ofString output)
            (Text.Utf8.encode (Document.render lines).toList) <;>
          simp [hempty, hwrite]
  unfold finishMerge
  cases injection.succeeded with
  | false => exact nofun
  | true => exact hdeliver _ _ _

/-- Merging is ended by markers exactly if it comes to a source whose language cannot be used. -/
theorem mergeWith_eq_notText_iff [Host] {files : FileTree} {request : MergeRequest} :
    (mergeWith config files request).1.exit = .aborted .notText ↔
      ∃ text document, files.readText (Path.ofString request.input) = .ok text ∧
        Document.ofText text = .ok document ∧
        Injection.run document (Source.reader files) config.languageTable = .error .notText := by
  unfold mergeWith
  cases htext : files.readText (Path.ofString request.input) with
  | error error => cases error <;> simp
  | ok text =>
    cases hdocument : Document.ofText text with
    | error fault => simp [hdocument]
    | ok document =>
      cases hrun : Injection.run document (Source.reader files) config.languageTable with
      | error abort => simp [hdocument, hrun]
      | ok injection =>
        simpa [hdocument, hrun] using exit_finishMerge_ne_notText files request injection

/-- Tools are looked for without regard to markers. -/
theorem find_ne_notText (machine : Machine) (settings : ToolSettings) :
    Toolchain.find machine settings ≠ .error .notText := by
  have hdirectory : Toolchain.toolDirectory machine settings.sdkDirectory ≠ .error .notText := by
    unfold Toolchain.toolDirectory
    split
    · split <;> exact nofun
    · exact nofun
  have hresolve (directory? : Option Path) (configured : Toml.Value) (names : List String) :
      Toolchain.resolve machine directory? configured names ≠ .error .notText := by
    unfold Toolchain.resolve
    split
    · exact nofun
    · split <;> exact nofun
  intro hfind
  rcases of_bind_error hfind with hfirst | ⟨directory?, -, hfind⟩
  · exact hdirectory hfirst
  rcases of_bind_error hfind with hfirst | ⟨disassembler?, -, hfind⟩
  · exact hresolve _ _ _ hfirst
  rcases of_bind_error hfind with hfirst | ⟨assembler?, -, hfind⟩
  · exact hresolve _ _ _ hfirst
  rcases of_bind_error hfind with hfirst | ⟨verifier?, -, hfind⟩
  · exact hresolve _ _ _ hfirst
  · cases hfind

/-- A stage ends without regard to markers. -/
theorem StageAbort.ne_notText [Host] {tool? : Option Toml.Value}
    {command : Toml.Value → Except Toml.Value.Unwritable Command} {machine : Machine}
    {abort : Abort} (hstage : Toolchain.StageAbort tool? command machine abort) :
    abort ≠ .notText := by
  cases hstage with
  | @unwritable tool fault => cases fault <;> exact nofun
  | unwritten => exact nofun
  | @unnamed tool written fault => cases fault <;> exact nofun

/-- The run of a module is ended by markers exactly if the injection into its disassembled code
is. -/
theorem moduleRun_eq_notText_iff [Host] {request : ModuleRequest} :
    (request.run machine).1 = .error .notText ↔
      ∃ files document, request.Disassembles machine.withDirectory files ∧
        ModuleRequest.readDocument files (machine.scratchFile "original.il") = .ok document ∧
        Injection.run document (Source.reader files) request.languages = .error .notText := by
  constructor
  · intro hrun
    cases ModuleRequest.escape_of_run hrun with
    | disassembly hstage => exact absurd rfl (StageAbort.ne_notText hstage)
    | code hdisassembles hread =>
      rcases of_bind_error hread with hfirst | ⟨text, -, hdocument⟩
      · obtain ⟨_, -, hcause⟩ := mapError_eq_error_iff.mp hfirst
        cases hcause
      · obtain ⟨_, -, hcause⟩ := mapError_eq_error_iff.mp hdocument
        cases hcause
    | sources hdisassembles hread hinjection => exact ⟨_, _, hdisassembles, hread, hinjection⟩
    | assembly hstage => exact absurd rfl (StageAbort.ne_notText hstage)
    | verification hstage => exact absurd rfl (StageAbort.ne_notText hstage)
  · rintro ⟨files, document, hdisassembles, hread, hinjection⟩
    have hinjected : request.injected files (machine.scratchFile "original.il") =
        .error .notText := by
      rw [ModuleRequest.injected, hread]
      exact hinjection
    obtain ⟨hok, rfl⟩ := (request.disassembles_iff machine.withDirectory files).mp hdisassembles
    rw [Machine.scratchFile_withDirectory] at hok hinjected
    rw [ModuleRequest.fst_run, ModuleRequest.proceed_of_success hok,
      ModuleRequest.assembleInjected_abort hinjected]

/-- Patching is ended by markers exactly if it comes to a source whose language cannot be used. -/
theorem patchWith_eq_notText_iff [Host] {request : InjectRequest} :
    (patchWith config request machine).exit = .aborted .notText ↔
      ∃ tools files document, Toolchain.find machine config.tools = .ok tools ∧
        (moduleRequest request config tools).Disassembles machine.withDirectory files ∧
        ModuleRequest.readDocument files (machine.scratchFile "original.il") = .ok document ∧
        Injection.run document (Source.reader files) config.languageTable = .error .notText := by
  have hpatch {tools : Toolchain} (htools : Toolchain.find machine config.tools = .ok tools) :
      (patchWith config request machine).exit = .aborted .notText ↔
        ((moduleRequest request config tools).run machine).1 = .error .notText := by
    simp only [patchWith, htools, injectWith]
    match (moduleRequest request config tools).run machine with
    | (.error abort, after) => simp
    | (.ok outcome, after) => cases houtput : outcome.output? <;> simp [houtput]
  constructor
  · intro hexit
    cases htools : Toolchain.find machine config.tools with
    | error abort =>
      simp only [patchWith, htools, Exit.aborted.injEq] at hexit
      exact absurd (hexit ▸ htools) (find_ne_notText machine config.tools)
    | ok tools =>
      obtain ⟨files, document, hdisassembles, hread, hrun⟩ :=
        moduleRun_eq_notText_iff.mp ((hpatch htools).mp hexit)
      exact ⟨tools, files, document, rfl, hdisassembles, hread, hrun⟩
  · rintro ⟨tools, files, document, htools, hdisassembles, hread, hrun⟩
    refine (hpatch htools).mpr (moduleRun_eq_notText_iff.mpr ?_)
    exact ⟨files, document, hdisassembles, hread, hrun⟩

/-- A command that goes on with its configuration is ended by markers exactly if it comes to a
source whose language cannot be used. -/
theorem performWith_eq_notText_iff [Host] {request : Request} {config? : Option String}
    (hloads : Loads request config?) :
    (performWith config machine request).exit = .aborted .notText ↔
      ∃ file, Reaches config machine request file ∧
        config.languageTable.choose file = .unusable := by
  cases hloads with
  | inject request =>
    refine patchWith_eq_notText_iff.trans ?_
    constructor
    · rintro ⟨tools, files, document, htools, hdisassembles, hread, hrun⟩
      obtain ⟨file, hreached, hunusable⟩ := Injection.run_eq_notText_iff.mp hrun
      exact ⟨file, .inject htools hdisassembles hread hreached, hunusable⟩
    · rintro ⟨file, hreaches, hunusable⟩
      cases hreaches with
      | inject htools hdisassembles hread hreached =>
        exact ⟨_, _, _, htools, hdisassembles, hread,
          Injection.run_eq_notText_iff.mpr ⟨file, hreached, hunusable⟩⟩
  | merge request =>
    refine mergeWith_eq_notText_iff.trans ?_
    constructor
    · rintro ⟨text, document, htext, hdocument, hrun⟩
      obtain ⟨file, hreached, hunusable⟩ := Injection.run_eq_notText_iff.mp hrun
      exact ⟨file, .merge htext hdocument hreached, hunusable⟩
    · rintro ⟨file, hreaches, hunusable⟩
      cases hreaches with
      | merge htext hdocument hreached =>
        exact ⟨_, _, htext, hdocument,
          Injection.run_eq_notText_iff.mpr ⟨file, hreached, hunusable⟩⟩
  | snippets request =>
    refine listSources_eq_notText_iff.trans ?_
    constructor
    · rintro ⟨file, hreached, hunusable⟩
      exact ⟨file, .snippets hreached, hunusable⟩
    · rintro ⟨file, hreaches, hunusable⟩
      cases hreaches with
      | snippets hreached => exact ⟨file, hreached, hunusable⟩

end Ends

/-! ## Whole commands -/

/-- An error that is reported. -/
def IsReported (error : ConfigError) : Prop :=
  error ≠ .wrongType ∧ error ≠ .grammar .tooDeep

/-- What a command makes of the bytes of its configuration file; `path` is how messages name the
file. -/
inductive Answers [Host] (machine : Machine) (request : Request) (path : String)
    (bytes : List UInt8) : Ended → Prop
  /-- The command goes on with the configuration that the bytes describe. -/
  | used {config : Config} (hconfig : Config.ofBytes path bytes = .ok config) :
      Answers machine request path bytes (performWith config machine request)
  /-- The error is reported, and nothing else happens. -/
  | reported {error : ConfigError} (hunusable : Unusable path bytes error)
      (hreported : IsReported error) :
      Answers machine request path bytes
        ⟨⟨[say .errors ("error: invalid config: " ++ error.message)], .failure⟩, machine⟩
  /-- A value is of the wrong type, and the command ends without a word. -/
  | mistyped (hunusable : Unusable path bytes .wrongType) :
      Answers machine request path bytes ⟨⟨[], .aborted .notText⟩, machine⟩
  /-- Values are nested too deeply, and the command ends without a word. -/
  | tooDeep (hunusable : Unusable path bytes (.grammar .tooDeep)) :
      Answers machine request path bytes ⟨⟨[], .aborted .tooDeep⟩, machine⟩

/-- Errors of bytes are reported, apart from two. -/
theorem answers_of_unusable [Host] {machine : Machine} {request : Request} {path : String}
    {bytes : List UInt8} {error : ConfigError} (hunusable : Unusable path bytes error) :
    Answers machine request path bytes ⟨configFailure error, machine⟩ := by
  cases hunusable with
  | encoding htext => exact .reported (.encoding htext) ⟨nofun, nofun⟩
  | @grammar text fault htext htable =>
    cases fault with
    | tooDeep => exact .tooDeep (.grammar htext htable)
    | _ => exact .reported (.grammar htext htable) ⟨nofun, nofun⟩
  | refused htext htable hrefused =>
    have hunusable := Unusable.refused htext htable hrefused
    rcases hrefused.error_cases with rfl | ⟨value, rfl⟩ | ⟨key, rfl⟩
    · exact .mistyped hunusable
    · exact .reported hunusable ⟨nofun, nofun⟩
    · exact .reported hunusable ⟨nofun, nofun⟩

/-- A command whose configuration file can be read goes on with the configuration that its bytes
are, reports why they are none, or ends without a word, and that exactly if a value is of the wrong
type or values are nested too deeply. With its configuration, it is ended by markers exactly if it
comes to a source with an extension whose last description has a marker that is no text. -/
theorem perform_configuration [Host] {machine : Machine} {request : Request}
    {config? : Option String} {path : Path} {bytes : List UInt8} (hloads : Loads request config?)
    (hfrom : LoadedFrom machine.files config? path)
    (hbytes : machine.files.readBytes path = .ok bytes) :
    Answers machine request path.toString bytes (perform machine request) ∧
      ∀ text table config, Text.Utf8.decode bytes = .ok text → Toml.read text = .ok table →
        ofTable path.toString table = .ok config →
        ((perform machine request).exit = .aborted .notText ↔
          ∃ file, Reaches config machine request file ∧
            Unscannable table (LanguageTable.extensionOf file)) := by
  rw [perform_eq_performWith hloads, loadConfig_eq_ofBytes hfrom hbytes]
  constructor
  · cases hconfig : ofBytes path.toString bytes with
    | ok config => exact .used hconfig
    | error error => exact answers_of_unusable (ofBytes_eq_error_iff.mp hconfig)
  · intro text table config htext htable hconfig
    have hread : ofBytes path.toString bytes = .ok config :=
      ofBytes_eq_ok_iff.mpr ⟨text, table, htext, htable, hconfig⟩
    rw [hread]
    simp only [performWith_eq_notText_iff hloads, LanguageTable.choose_eq_unusable_iff,
      lookup_languageTable, Option.map_eq_some_iff, exists_entryFor_iff hconfig]

/-- A machine with an empty source file and a configuration file of which the text is given. -/
def configuredBy (text : String) : Machine :=
  { oneBlockMachine with
    files := ⟨["w"], [(["w"], .directory), (["w", "a.cs"], .file []),
      (["w", fileName], .file (Text.Utf8.encode text.toList))]⟩ }

/-- The request to list the snippets of that file. -/
def listing : Request := .snippets ⟨["a.cs"], false, none⟩

/-- The description of a language whose markers are numbers. -/
def numberedMarkers : String := "[languages.cs]\nstart = 1\nend = 2\n"

/-- A language whose markers are numbers ends a listing without a word. -/
theorem perform_configuration_numberedMarkers :
    LoadedFrom (configuredBy numberedMarkers).files none ⟨.top, ["w", fileName]⟩ ∧
      (perform (configuredBy numberedMarkers) listing).exit = .aborted .notText := by
  have hfrom : LoadedFrom (configuredBy numberedMarkers).files none ⟨.top, ["w", fileName]⟩ :=
    .nearest (by decide +kernel)
  have hbytes : (configuredBy numberedMarkers).files.readBytes ⟨.top, ["w", fileName]⟩ =
      .ok (Text.Utf8.encode numberedMarkers.toList) := by
    decide +kernel
  have hmarkers : (ofBytes "/w/inlineil.toml" (Text.Utf8.encode numberedMarkers.toList)).map
      (fun config => (entryFor config.languages ".cs").map LanguageEntry.language?) =
        .ok (some none) := by
    decide +kernel
  cases hread : ofBytes "/w/inlineil.toml" (Text.Utf8.encode numberedMarkers.toList) with
  | error fault =>
    rw [hread] at hmarkers
    cases hmarkers
  | ok config =>
    rw [hread] at hmarkers
    obtain ⟨entry, hentry, hnone⟩ := Option.map_eq_some_iff.mp (Except.ok.inj hmarkers)
    obtain ⟨text, table, htext, htable, hconfig⟩ := ofBytes_eq_ok_iff.mp hread
    have hreached : Reaches config (configuredBy numberedMarkers) listing "a.cs" :=
      .snippets ⟨[], [], rfl, List.forall_mem_nil _, "", by decide +kernel⟩
    have hextension : LanguageTable.extensionOf "a.cs" = ".cs" := by decide +kernel
    obtain ⟨-, hended⟩ := perform_configuration (.snippets ⟨["a.cs"], false, none⟩) hfrom hbytes
    refine ⟨hfrom, (hended text table config htext htable hconfig).mpr ⟨"a.cs", hreached, ?_⟩⟩
    rw [hextension]
    exact (exists_entryFor_iff hconfig ".cs").mp ⟨entry, hentry, hnone⟩

/-- A number in the place of the tools ends a listing without a word, and numbers in the place of
markers do so once a source is scanned for them, while an unknown kind of module is reported. -/
theorem exists_unreported_configuration :
    (perform (configuredBy "toolchain = 1\n") listing).exit = .aborted .notText ∧
      (perform (configuredBy "toolchain = 1\n") listing).transcript = [] ∧
      (perform (configuredBy numberedMarkers) listing).exit = .aborted .notText ∧
      (perform (configuredBy numberedMarkers) listing).transcript = [] ∧
      (perform (configuredBy "[assemble]\noutput_type = \"winexe\"\n") listing).exit = .failure :=
  ⟨by decide +kernel, by decide +kernel, by decide +kernel, by decide +kernel, by decide +kernel⟩

end ILGraft.CommandLine
