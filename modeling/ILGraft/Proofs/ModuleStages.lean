import ILGraft.Proofs.MergeAgreement
import ILGraft.Proofs.ToolRuns

/-!
# The stages of a module

A module goes through a disassembler, an assembler and, if asked for, a verifier. Each of them is
started only if all before it have exited with code zero, the assembler moreover only on the text
that a merge command writes for the same code. The module is patched exactly if every stage was
gone through, and temporary files never outlive it.
-/

namespace ILGraft.ModuleRequest

/-- The command of a tool, if there is such a tool and its command can be written. -/
def planned (tool? : Option Toml.Value)
    (command : Toml.Value → Except Toml.Value.Unwritable Command) : Option Command :=
  tool?.bind fun tool => (command tool).toOption

/-- A planned command is that of a tool. -/
theorem of_planned {tool? : Option Toml.Value}
    {command : Toml.Value → Except Toml.Value.Unwritable Command} {written : Command}
    (hplanned : planned tool? command = some written) :
    ∃ tool, tool? = some tool ∧ command tool = .ok written := by
  obtain ⟨tool, htool, hcommand⟩ := Option.bind_eq_some_iff.mp hplanned
  refine ⟨tool, htool, ?_⟩
  cases hanswer : command tool with
  | error fault => simp only [hanswer, Except.toOption, reduceCtorEq] at hcommand
  | ok found => simpa only [hanswer, Except.toOption, Option.some.injEq, Except.ok.injEq] using hcommand

/-- The command that disassembles the module. -/
def disassembly? (request : ModuleRequest) (machine : Machine) : Option Command :=
  planned request.tools.disassembler? fun tool =>
    .ok (Toolchain.disassembleCommand tool request.module (machine.scratchFile "original.il"))

/-- The command that assembles the merged code. -/
def assembly? [Host] (request : ModuleRequest) (machine : Machine) : Option Command :=
  planned request.tools.assembler? fun tool =>
    Toolchain.assembleCommand tool (machine.scratchFile Machine.mergedName) request.output
      request.assembly

/-- The command that verifies the patched module, if that is asked for. -/
def lastCommands (request : ModuleRequest) : List (Option Command) :=
  if request.verify then
    [planned request.tools.verifier? fun tool =>
      .ok (Toolchain.verifyCommand tool request.output)]
  else []

/-- The commands of all processes that have to succeed, in order. A command that there is none for
is never started. -/
def commands [Host] (request : ModuleRequest) (machine : Machine) : List (Option Command) :=
  request.disassembly? machine :: request.assembly? machine :: request.lastCommands

/-- What holds of the result of stages that begin on a machine and have planned commands, with the
processes that were started for them. -/
structure Carried (request : ModuleRequest) (plan : List (Option Command)) (machine : Machine)
    (result : Except Abort ModuleOutcome) (after : Machine) (started : List Run) : Prop where
  /-- Nothing else has happened to the machine, its files apart. -/
  recorded : machine.Started after started
  /-- Processes are started as planned. -/
  commands : started.map (fun run => some run.command) <+: plan
  /-- Every process that another one follows has succeeded. -/
  zero : ∀ index, index + 1 < started.length → (machine.endingOf index).Succeeds
  /-- The outcome is a success exactly if everything planned has succeeded. -/
  succeeded : ∀ outcome, result = .ok outcome →
    (outcome.succeeded = true ↔ started.length = plan.length ∧
      ∀ index < plan.length, (machine.endingOf index).Succeeds)
  /-- A success names the patched module and comes of an injection. -/
  injected : ∀ outcome, result = .ok outcome → outcome.succeeded = true →
    outcome.output? = some request.output ∧
      ∃ injection, outcome.injection? = some injection ∧ injection.succeeded = true

variable {request : ModuleRequest} {plan : List (Option Command)} {command? : Option Command}
  {machine middle after : Machine} {result : Except Abort ModuleOutcome} {run : Run}
  {started : List Run}

/-- With nothing left to be done the module is patched. -/
theorem Carried.complete {injection : Injection} (hinjection : injection.succeeded = true) :
    Carried request [] machine (.ok (.patched injection request.output)) machine [] where
  recorded := .refl machine
  commands := List.prefix_rfl
  zero := fun _ hindex => absurd hindex (Nat.not_lt_zero _)
  succeeded := by
    rintro _ ⟨⟩
    exact iff_of_true rfl ⟨rfl, fun _ hindex => absurd hindex (Nat.not_lt_zero _)⟩
  injected := by
    rintro _ ⟨⟩ -
    exact ⟨rfl, injection, rfl, hinjection⟩

/-- A stage that cannot start its process is the last one. -/
theorem Carried.unstarted
    (hfails : ∀ outcome, result = .ok outcome → outcome.succeeded = false) :
    Carried request (command? :: plan) machine result machine [] where
  recorded := .refl machine
  commands := List.nil_prefix
  zero := fun _ hindex => absurd hindex (Nat.not_lt_zero _)
  succeeded := by
    intro outcome hresult
    rw [hfails outcome hresult]
    exact iff_of_false Bool.false_ne_true fun hall => nomatch hall.1
  injected := by
    intro outcome hresult hsucceeded
    rw [hfails outcome hresult] at hsucceeded
    cases hsucceeded

/-- A stage whose process was started may be the last one, because the process failed or because of
what comes behind it. -/
theorem Carried.stopped (hcommand : command? = some run.command)
    (hstarted : machine.Started after [run])
    (hfails : ∀ outcome, result = .ok outcome →
      outcome.succeeded = false ∧ (plan ≠ [] ∨ ¬(machine.endingOf 0).Succeeds)) :
    Carried request (command? :: plan) machine result after [run] where
  recorded := hstarted
  commands := by
    rw [hcommand, List.map_singleton]
    exact List.cons_prefix_cons.mpr ⟨rfl, List.nil_prefix⟩
  zero := fun _ hindex => by simp at hindex
  succeeded := by
    intro outcome hresult
    obtain ⟨hfailed, hend⟩ := hfails outcome hresult
    rw [hfailed]
    refine iff_of_false Bool.false_ne_true fun ⟨hlength, hzero⟩ => ?_
    rcases hend with hmore | hnonzero
    · exact hmore (List.eq_nil_of_length_eq_zero (by simpa using hlength.symm))
    · exact hnonzero (hzero 0 (Nat.succ_pos _))
  injected := by
    intro outcome hresult hsucceeded
    rw [(hfails outcome hresult).1] at hsucceeded
    cases hsucceeded

/-- A stage whose process succeeds is followed by the others. -/
theorem Carried.next (hcommand : command? = some run.command)
    (hstarted : machine.Started middle [run]) (hzero : (machine.endingOf 0).Succeeds)
    (hrest : Carried request plan middle result after started) :
    Carried request (command? :: plan) machine result after (run :: started) := by
  have hending (index : Nat) : middle.endingOf index = machine.endingOf (index + 1) := by
    rw [hstarted.endingOf, List.length_singleton, Nat.add_comm]
  refine ⟨hstarted.trans hrest.recorded, ?_, fun index hindex => ?_, fun outcome hresult => ?_,
    hrest.injected⟩
  · rw [hcommand, List.map_cons]
    exact List.cons_prefix_cons.mpr ⟨rfl, hrest.commands⟩
  · cases index with
    | zero => exact hzero
    | succ index =>
      rw [← hending]
      exact hrest.zero index (by simpa using hindex)
  · rw [hrest.succeeded outcome hresult, List.length_cons, List.length_cons, Nat.add_right_cancel_iff,
      Nat.forall_lt_succ_left]
    simp only [hending, hzero, true_and]

/-- What follows a stage: the next one if its tool has done its work, or else the end. -/
def proceed (failed : ToolFailure → ModuleOutcome)
    (next : Machine → Except Abort ModuleOutcome × Machine) :
    Except Abort (Except ToolFailure Unit) × Machine → Except Abort ModuleOutcome × Machine
  | (.error abort, machine) => (.error abort, machine)
  | (.ok (.error failure), machine) => (.ok (failed failure), machine)
  | (.ok (.ok ()), machine) => next machine

/-- The last stage ends with a patched module. -/
theorem verifyPatched_eq [Host] (request : ModuleRequest) (injection : Injection)
    (machine : Machine) :
    request.verifyPatched injection machine =
      if request.verify then
        proceed (.unassembled injection)
          (fun machine => (.ok (.patched injection request.output), machine))
          (request.tools.verify request.output machine)
      else (.ok (.patched injection request.output), machine) := rfl

/-- The middle stage is followed by the last one. -/
theorem assembleMerged_eq [Host] (request : ModuleRequest) (injection : Injection)
    (machine : Machine) :
    request.assembleMerged injection machine =
      match machine.files.write (machine.scratchFile Machine.mergedName)
        (Text.Utf8.encode (Document.render injection.lines).toList) with
      | .error error => (.error (.text (.file error)), machine)
      | .ok files =>
        proceed (.unassembled injection) (request.verifyPatched injection)
          (request.tools.assemble (machine.scratchFile Machine.mergedName) request.output
            request.assembly { machine with files }) := rfl

/-- What becomes of disassembled code in a file, with the sources that lie in the same tree. -/
def injected (request : ModuleRequest) (files : FileTree) (code : Path) :
    Except Abort Injection := do
  let document ← readDocument files code
  Injection.run document (Source.reader files) request.languages

/-- The injection, and the middle stage if that succeeds. -/
def assembleInjected [Host] (request : ModuleRequest) (code : Path) (machine : Machine) :
    Except Abort ModuleOutcome × Machine :=
  match request.injected machine.files code with
  | .error abort => (.error abort, machine)
  | .ok injection =>
    if injection.succeeded then request.assembleMerged injection machine
    else (.ok (.stopped injection), machine)

/-- Code that cannot be injected into ends the run. -/
theorem assembleInjected_abort [Host] {code : Path} {abort : Abort}
    (hinjected : request.injected machine.files code = .error abort) :
    request.assembleInjected code machine = (.error abort, machine) := by
  delta assembleInjected
  rw [hinjected]

/-- An injection that succeeds is followed by the middle stage. -/
theorem assembleInjected_merged [Host] {code : Path} {injection : Injection}
    (hinjected : request.injected machine.files code = .ok injection)
    (hsucceeded : injection.succeeded = true) :
    request.assembleInjected code machine = request.assembleMerged injection machine := by
  delta assembleInjected
  rw [hinjected]
  exact if_pos hsucceeded

/-- An injection that fails stops the run. -/
theorem assembleInjected_stopped [Host] {code : Path} {injection : Injection}
    (hinjected : request.injected machine.files code = .ok injection)
    (hfailed : injection.succeeded = false) :
    request.assembleInjected code machine = (.ok (.stopped injection), machine) := by
  delta assembleInjected
  rw [hinjected]
  exact if_neg (Bool.eq_false_iff.mp hfailed)

/-- The first stage is followed by the injection. -/
theorem runWithScratch_eq [Host] (request : ModuleRequest) (machine : Machine) :
    request.runWithScratch machine =
      proceed .undisassembled (request.assembleInjected (machine.scratchFile "original.il"))
        (request.tools.disassemble request.module (machine.scratchFile "original.il") machine) := by
  rw [runWithScratch]
  rfl

/-- A stage goes as planned: it is the last one unless its tool does its work, and then it is followed
by the others. -/
theorem Carried.of_stage [Host] (failed : ToolFailure → ModuleOutcome)
    (next : Machine → Except Abort ModuleOutcome × Machine) (Second : Run → Prop)
    {tool? : Option Toml.Value} {command : Toml.Value → Except Toml.Value.Unwritable Command}
    {timeout : Toml.Value} {stage : Except Abort (Except ToolFailure Unit) × Machine}
    (hstage : Toolchain.Stage tool? command timeout machine stage.1 stage.2)
    (hfails : ∀ failure, (failed failure).succeeded = false)
    (hnext : stage.1 = .ok (.ok ()) → ∃ rest,
      Carried request plan stage.2 (next stage.2).1 (next stage.2).2 rest ∧
        ∀ run ∈ rest.head?, Second run) :
    ∃ started, Carried request (planned tool? command :: plan) machine
        (proceed failed next stage).1 (proceed failed next stage).2 started ∧
      (∀ run ∈ started.head?, ∃ written, planned tool? command = some written ∧
        run = machine.recordOf written timeout) ∧
      ∀ run ∈ started[1]?, Second run := by
  obtain ⟨answer, middle⟩ := stage
  dsimp only at hstage hnext
  have hnone : ∀ run ∈ ([] : List Run)[1]?, Second run := by rintro _ ⟨⟩
  cases hstage with
  | missing htool =>
    exact ⟨[], .unstarted (by rintro _ ⟨⟩; exact hfails _), by rintro _ ⟨⟩, hnone⟩
  | unwritable htool hcommand =>
    exact ⟨[], .unstarted (by rintro _ ⟨⟩), by rintro _ ⟨⟩, hnone⟩
  | @started tool written _ _ htool hcommand hstarted hran =>
    have hplanned : planned tool? command = some written := by
      rw [planned, htool, Option.bind_some, hcommand]
      rfl
    have hfirst : ∀ rest : List Run, ∀ run ∈ (machine.recordOf written timeout :: rest).head?,
        ∃ written, planned tool? command = some written ∧
          run = machine.recordOf written timeout := by
      rintro rest _ ⟨⟩
      exact ⟨written, hplanned, rfl⟩
    match answer with
    | .error abort => exact ⟨_, .stopped hplanned hstarted (by rintro _ ⟨⟩), hfirst [], hnone⟩
    | .ok (.error failure) =>
      refine ⟨_, .stopped hplanned hstarted ?_, hfirst [], hnone⟩
      rintro _ ⟨⟩
      exact ⟨hfails failure, .inr hran.of_failure⟩
    | .ok (.ok ()) =>
      obtain ⟨rest, hrest, hsecond⟩ := hnext rfl
      refine ⟨_, .next hplanned hstarted hran.of_success.1 hrest, hfirst rest, fun run hrun => ?_⟩
      rw [List.getElem?_cons_succ, ← List.head?_eq_getElem?] at hrun
      exact hsecond run hrun

/-- The last stage goes as planned. -/
theorem verifyPatched_carried [Host] (request : ModuleRequest) {injection : Injection}
    (hinjection : injection.succeeded = true) (machine : Machine) :
    ∃ started, Carried request request.lastCommands machine
      (request.verifyPatched injection machine).1 (request.verifyPatched injection machine).2
      started := by
  rw [verifyPatched_eq, lastCommands]
  split
  · have hstage := request.tools.verify_stage request.output machine
    obtain ⟨started, hcarried, -⟩ := Carried.of_stage (.unassembled injection)
      (fun machine => (.ok (.patched injection request.output), machine)) (fun _ => True) hstage
      (fun _ => rfl) (fun _ => ⟨[], .complete hinjection, fun _ _ => trivial⟩)
    exact ⟨started, hcarried⟩
  · exact ⟨[], .complete hinjection⟩

/-- Stages that begin with other files go through the same processes. -/
theorem Carried.of_files {files : FileTree}
    (hcarried : Carried request plan { machine with files } result after started) :
    Carried request plan machine result after started :=
  ⟨⟨hcarried.recorded.runs, hcarried.recorded.script, hcarried.recorded.scratch⟩,
    hcarried.commands, hcarried.zero, hcarried.succeeded, hcarried.injected⟩

/-- The command of the assembler begins with the file of the code. -/
theorem head?_assembleCommand [Host] {tool : Toml.Value} {code output : Path}
    {settings : AssemblySettings} {command : Command}
    (hcommand : Toolchain.assembleCommand tool code output settings = .ok command) :
    command.arguments.head? = some code.toString := by
  obtain ⟨key, -, hwritten⟩ := of_bind_ok hcommand
  rw [← Except.ok.inj hwritten]
  rfl

/-- The middle and the last stage go as planned, and the assembler works on the merged text. -/
theorem assembleMerged_carried [Host] (request : ModuleRequest) {injection : Injection}
    (hinjection : injection.succeeded = true) (machine : Machine) :
    ∃ started, Carried request (request.assembly? machine :: request.lastCommands) machine
        (request.assembleMerged injection machine).1 (request.assembleMerged injection machine).2
        started ∧
      ∀ run ∈ started.head?, run.merged? = some (Document.render injection.lines) := by
  rw [assembleMerged_eq]
  split
  · exact ⟨[], .unstarted (by rintro _ ⟨⟩), by rintro _ ⟨⟩⟩
  · next files hwrite =>
    have hstage := request.tools.assemble_stage (machine.scratchFile Machine.mergedName)
      request.output request.assembly { machine with files }
    obtain ⟨started, hcarried, hfirst, -⟩ := Carried.of_stage (.unassembled injection)
      (request.verifyPatched injection) (fun _ => True) hstage (fun _ => rfl) (fun _ => by
        obtain ⟨rest, hrest⟩ := request.verifyPatched_carried hinjection _
        exact ⟨rest, hrest, fun _ _ => trivial⟩)
    refine ⟨started, hcarried.of_files, fun run hrun => ?_⟩
    obtain ⟨written, hplanned, rfl⟩ := hfirst run hrun
    obtain ⟨tool, -, hcommand⟩ := of_planned hplanned
    exact Machine.mergedInput?_of_write (head?_assembleCommand hcommand) hwrite

/-- The files that the disassembler leaves when its process has succeeded. -/
def Disassembles (request : ModuleRequest) (machine : Machine) (files : FileTree) : Prop :=
  ∃ command, request.disassembly? machine = some command ∧ (machine.endingOf 0).Succeeds ∧
    Machine.afterWriting machine.files command (machine.endingOf 0).written? = .ok files

/-- The disassembler does its work exactly if its process succeeds and writes its target file. -/
theorem disassembles_iff [Host] (request : ModuleRequest) (machine : Machine) (files : FileTree) :
    request.Disassembles machine files ↔
      (request.tools.disassemble request.module (machine.scratchFile "original.il") machine).1
        = .ok (.ok ()) ∧
      (request.tools.disassemble request.module (machine.scratchFile "original.il") machine).2.files
        = files := by
  have hstage := request.tools.disassemble_stage request.module
    (machine.scratchFile "original.il") machine
  constructor
  · rintro ⟨command, hplanned, hzero, hfiles⟩
    obtain ⟨tool, htool, hcommand⟩ := of_planned hplanned
    exact hstage.eq_success htool hcommand hzero hfiles
  · rintro ⟨hok, rfl⟩
    rw [hok] at hstage
    obtain ⟨tool, command, htool, hcommand, hzero, hfiles⟩ := hstage.of_success
    refine ⟨command, ?_, hzero, hfiles⟩
    rw [disassembly?, planned, htool, Option.bind_some, hcommand]
    rfl

/-- What a process works on whose input is merged code: the injection into the disassembled code has
succeeded, and its lines are that input. -/
def WorksOnMerged (request : ModuleRequest) (files : FileTree) (code : Path)
    (document : Document) (lines : List String) (run : Run) : Prop :=
  readDocument files code = .ok document ∧
    (∃ placements warnings, Injection.run document (Source.reader files) request.languages =
      .ok (.merged lines placements warnings)) ∧
    run.merged? = some (Document.render lines)

/-- An injection into code that succeeds has merged lines. -/
theorem of_injected {files : FileTree} {code : Path} {injection : Injection}
    (hinjected : request.injected files code = .ok injection)
    (hsucceeded : injection.succeeded = true) :
    ∃ document placements warnings, readDocument files code = .ok document ∧
      Injection.run document (Source.reader files) request.languages =
        .ok (.merged injection.lines placements warnings) := by
  obtain ⟨document, hdocument, hrun⟩ := of_bind_ok hinjected
  cases injection with
  | merged lines placements warnings => exact ⟨document, placements, warnings, hdocument, hrun⟩
  | misplaced => cases hsucceeded
  | uncollected => cases hsucceeded

/-- Behind the injection the stages go as planned, and the assembler works on the merged text. -/
theorem assembleInjected_carried [Host] (request : ModuleRequest) (code : Path)
    (machine : Machine) :
    ∃ started, Carried request (request.assembly? machine :: request.lastCommands) machine
        (request.assembleInjected code machine).1 (request.assembleInjected code machine).2 started ∧
      ∀ run ∈ started.head?, ∃ document lines,
        request.WorksOnMerged machine.files code document lines run := by
  cases hinjected : request.injected machine.files code with
  | error abort =>
    rw [assembleInjected_abort hinjected]
    exact ⟨[], .unstarted (by rintro _ ⟨⟩), by rintro _ ⟨⟩⟩
  | ok injection =>
    cases hsucceeded : injection.succeeded with
    | true =>
      obtain ⟨document, placements, warnings, hdocument, hrun⟩ := of_injected hinjected hsucceeded
      obtain ⟨started, hcarried, hmerged⟩ := request.assembleMerged_carried hsucceeded machine
      rw [assembleInjected_merged hinjected hsucceeded]
      exact ⟨started, hcarried, fun run hfirst => ⟨document, injection.lines, hdocument,
        ⟨placements, warnings, hrun⟩, hmerged run hfirst⟩⟩
    | false =>
      rw [assembleInjected_stopped hinjected hsucceeded]
      refine ⟨[], .unstarted ?_, by rintro _ ⟨⟩⟩
      rintro _ ⟨⟩
      rfl

/-- All stages go as planned, and the assembler works on the merged text of the code that the
disassembler has left. -/
theorem runWithScratch_carried [Host] (request : ModuleRequest) (machine : Machine) :
    ∃ started, Carried request (request.commands machine) machine
        (request.runWithScratch machine).1 (request.runWithScratch machine).2 started ∧
      ∀ run ∈ started[1]?, ∃ files document lines, request.Disassembles machine files ∧
        request.WorksOnMerged files (machine.scratchFile "original.il") document lines run := by
  rw [runWithScratch_eq, commands]
  have hstage := request.tools.disassemble_stage request.module
    (machine.scratchFile "original.il") machine
  have hdisassembles (files : FileTree) := (request.disassembles_iff machine files).mpr
  generalize request.tools.disassemble request.module (machine.scratchFile "original.il") machine
    = stage at hstage hdisassembles
  have hassembly : request.assembly? stage.2 = request.assembly? machine := by
    simp only [assembly?, Machine.scratchFile, hstage.scratch]
  have hnext (hok : stage.1 = .ok (.ok ())) :
      ∃ rest, Carried request (request.assembly? machine :: request.lastCommands) stage.2
          (request.assembleInjected (machine.scratchFile "original.il") stage.2).1
          (request.assembleInjected (machine.scratchFile "original.il") stage.2).2 rest ∧
        ∀ run ∈ rest.head?, ∃ files document lines, request.Disassembles machine files ∧
          request.WorksOnMerged files (machine.scratchFile "original.il") document lines run := by
    obtain ⟨rest, hrest, hfirst⟩ := request.assembleInjected_carried
      (machine.scratchFile "original.il") stage.2
    rw [hassembly] at hrest
    refine ⟨rest, hrest, fun run hrun => ?_⟩
    obtain ⟨document, lines, hworks⟩ := hfirst run hrun
    exact ⟨stage.2.files, document, lines, hdisassembles _ ⟨hok, rfl⟩, hworks⟩
  obtain ⟨started, hcarried, -, hsecond⟩ := Carried.of_stage .undisassembled
    (request.assembleInjected (machine.scratchFile "original.il")) _ hstage (fun _ => rfl) hnext
  exact ⟨started, hcarried, hsecond⟩

end ILGraft.ModuleRequest
