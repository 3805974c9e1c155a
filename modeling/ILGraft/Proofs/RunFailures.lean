import ILGraft.Proofs.ModuleRuns

/-!
# Failures of runs

A run that does not patch its module mostly says why: it names the failure of a tool, or its
diagnostics hold an error. What goes wrong between two stages is not always caught, though. Code
that the disassembler has left in a state in which it cannot be read ends the run without any
result, while a merge command reports code that is not UTF-8.

The causes below are those of processes that end as an `Ending` says. On a system there are more: a
program that exists and cannot be started, and a process that writes something other than text on
its streams. They too would end a run without a result.
-/

namespace ILGraft

/-- An injection that has merged nothing reports an error. -/
theorem Injection.exists_error {injection : Injection} (hfailed : injection.succeeded = false) :
    ∃ diagnostic ∈ injection.diagnostics, diagnostic.severity = .error := by
  cases injection with
  | merged => cases hfailed
  | misplaced _ warnings fault =>
    exact ⟨fault.diagnostic, List.mem_append_right _ (List.mem_singleton_self _), rfl⟩
  | uncollected fault => exact ⟨fault.diagnostic, List.mem_singleton_self _, rfl⟩

namespace Toolchain

/-- Why a stage ends without a result if its process has an `Ending`: its command cannot be written,
the file that its process writes is refused, or its program does not exist and has no name that
could be given. -/
inductive StageAbort [Host] (tool? : Option Toml.Value)
    (command : Toml.Value → Except Toml.Value.Unwritable Command) (machine : Machine) :
    Abort → Prop
  /-- The command cannot be written. -/
  | unwritable {tool : Toml.Value} {fault : Toml.Value.Unwritable} (htool : tool? = some tool)
      (hcommand : command tool = .error fault) :
      StageAbort tool? command machine (.ofUnwritable fault)
  /-- The file that the process writes is refused. -/
  | unwritten {tool : Toml.Value} {written : Command} {error : FileError}
      (htool : tool? = some tool) (hcommand : command tool = .ok written)
      (hwrite : Machine.afterWriting machine.files written (machine.endingOf 0).written?
        = .error error) : StageAbort tool? command machine (.text (.file error))
  /-- The program does not exist, and its name cannot be given. -/
  | unnamed {tool : Toml.Value} {written : Command} {fault : Toml.Value.Unwritable}
      (htool : tool? = some tool) (hcommand : command tool = .ok written)
      (hending : machine.endingOf 0 = .notFound)
      (hprogram : written.program.display = .error fault) :
      StageAbort tool? command machine (.ofUnwritable fault)

/-- A stage without a result has one of these causes. -/
theorem Stage.of_abort [Host] {tool? : Option Toml.Value}
    {command : Toml.Value → Except Toml.Value.Unwritable Command} {timeout : Toml.Value}
    {machine after : Machine} {abort : Abort}
    (hstage : Stage tool? command timeout machine (.error abort) after) :
    StageAbort tool? command machine abort := by
  cases hstage with
  | unwritable htool hcommand => exact .unwritable htool hcommand
  | started htool hcommand hstarted hran =>
    cases hran with
    | unwritten hwrite => exact .unwritten htool hcommand hwrite
    | unnamed hending hprogram => exact .unnamed htool hcommand hending hprogram

end Toolchain

namespace ModuleRequest

variable {request : ModuleRequest} {machine : Machine} {injection : Injection}
  {failed : ToolFailure → ModuleOutcome} {next : Machine → Except Abort ModuleOutcome × Machine}
  {stage : Except Abort (Except ToolFailure Unit) × Machine}

/-- No result comes of a stage or of what follows it. -/
theorem of_proceed_abort {abort : Abort} (habort : (proceed failed next stage).1 = .error abort) :
    stage.1 = .error abort ∨ stage.1 = .ok (.ok ()) ∧ (next stage.2).1 = .error abort := by
  match stage, habort with
  | (.error _, _), habort => exact .inl (congrArg Except.error (Except.error.inj habort))
  | (.ok (.ok ()), _), habort => exact .inr ⟨rfl, habort⟩

/-- An outcome is that of a stage whose tool has failed, or of what follows a stage whose tool has
done its work. -/
theorem proceed_eq_ok_iff {outcome : ModuleOutcome} :
    (proceed failed next stage).1 = .ok outcome ↔
      (∃ failure, stage.1 = .ok (.error failure) ∧ outcome = failed failure) ∨
        stage.1 = .ok (.ok ()) ∧ (next stage.2).1 = .ok outcome := by
  match stage with
  | (.error abort, after) => simp [proceed]
  | (.ok (.error failure), after) => simp [proceed, eq_comm]
  | (.ok (.ok ()), after) => simp [proceed]

/-- An outcome comes of the failure of a stage or of what follows it. -/
theorem of_proceed_ok {outcome : ModuleOutcome}
    (houtcome : (proceed failed next stage).1 = .ok outcome) :
    (∃ failure, outcome = failed failure) ∨ (next stage.2).1 = .ok outcome := by
  rcases proceed_eq_ok_iff.mp houtcome with ⟨failure, -, rfl⟩ | ⟨-, hnext⟩
  · exact .inl ⟨failure, rfl⟩
  · exact .inr hnext

/-- A stage that has done its work is followed by the next one. -/
theorem proceed_of_success (hok : stage.1 = .ok (.ok ())) :
    proceed failed next stage = next stage.2 := by
  match stage, hok with
  | (.ok (.ok ()), _), _ => rfl

/-- The result of a run is that of its first stage and of what follows it. -/
theorem fst_run [Host] (request : ModuleRequest) (machine : Machine) :
    (request.run machine).1 =
      (proceed .undisassembled (request.assembleInjected (machine.scratchFile "original.il"))
        (request.tools.disassemble request.module (machine.scratchFile "original.il")
          machine.withDirectory)).1 := by
  have hrun : (request.run machine).1 = (request.runWithScratch machine.withDirectory).1 := rfl
  rw [hrun, runWithScratch_eq, Machine.scratchFile_withDirectory]

/-- An outcome that is a success or says why it is none. -/
def Reports (outcome : ModuleOutcome) : Prop :=
  outcome.succeeded = true ∨ (∃ failure, outcome.toolFailure? = some failure) ∨
    ∃ diagnostic ∈ outcome.diagnostics, diagnostic.severity = .error

/-- Once code is assembled, the injection is no longer what stops a run. -/
theorem assembleMerged_ne_stopped [Host] (request : ModuleRequest) (injection other : Injection)
    (machine : Machine) :
    (request.assembleMerged injection machine).1 ≠ .ok (.stopped other) := by
  have hverify (after : Machine) :
      (request.verifyPatched injection after).1 ≠ .ok (.stopped other) := by
    intro hstopped
    rw [verifyPatched_eq] at hstopped
    split at hstopped
    · rcases of_proceed_ok hstopped with ⟨failure, hfailure⟩ | hpatched
      · cases hfailure
      · cases hpatched
    · cases hstopped
  intro hstopped
  rw [assembleMerged_eq] at hstopped
  split at hstopped
  · cases hstopped
  · rcases of_proceed_ok hstopped with ⟨failure, hfailure⟩ | hverified
    · cases hfailure
    · exact hverify _ hverified

/-- A run is stopped only by an injection that has failed. -/
theorem failed_of_stopped [Host] {code : Path}
    (hstopped : (request.assembleInjected code machine).1 = .ok (.stopped injection)) :
    injection.succeeded = false := by
  cases hinjected : request.injected machine.files code with
  | error abort =>
    rw [assembleInjected_abort hinjected] at hstopped
    cases hstopped
  | ok found =>
    cases hsucceeded : found.succeeded with
    | true =>
      rw [assembleInjected_merged hinjected hsucceeded] at hstopped
      exact absurd hstopped (request.assembleMerged_ne_stopped _ _ _)
    | false =>
      rw [assembleInjected_stopped hinjected hsucceeded] at hstopped
      cases hstopped
      exact hsucceeded

/-- Every outcome is a success or says why it is none. -/
theorem reports_of_run [Host] {outcome : ModuleOutcome}
    (houtcome : (request.run machine).1 = .ok outcome) : Reports outcome := by
  cases outcome with
  | undisassembled failure => exact .inr (.inl ⟨failure, rfl⟩)
  | unassembled injection failure => exact .inr (.inl ⟨failure, rfl⟩)
  | patched => exact .inl rfl
  | stopped injection =>
    rw [fst_run] at houtcome
    rcases of_proceed_ok houtcome with ⟨failure, hstopped⟩ | hrest
    · cases hstopped
    · exact .inr (.inr (Injection.exists_error (failed_of_stopped hrest)))

/-- What ends a run without a result: a stage does, or the disassembled code, a source that it
names, or the file for the merged code is of no use. -/
inductive Escape [Host] (request : ModuleRequest) (machine : Machine) : Abort → Prop
  /-- The disassembler ends the run. -/
  | disassembly {abort : Abort}
      (hstage : Toolchain.StageAbort request.tools.disassembler? (fun tool =>
        .ok (Toolchain.disassembleCommand tool request.module (machine.scratchFile "original.il")))
        machine.withDirectory abort) : Escape request machine abort
  /-- The code that the disassembler has left cannot be read. -/
  | code {files : FileTree} {abort : Abort}
      (hdisassembles : request.Disassembles machine.withDirectory files)
      (hread : readDocument files (machine.scratchFile "original.il") = .error abort) :
      Escape request machine abort
  /-- The name of a source, or the markers of its language, cannot be used. -/
  | sources {files : FileTree} {document : Document} {abort : Abort}
      (hdisassembles : request.Disassembles machine.withDirectory files)
      (hread : readDocument files (machine.scratchFile "original.il") = .ok document)
      (hrun : Injection.run document (Source.reader files) request.languages = .error abort) :
      Escape request machine abort
  /-- The merged code cannot be written. -/
  | mergedCode {files : FileTree} {bytes : List UInt8} {error : FileError}
      (hdisassembles : request.Disassembles machine.withDirectory files)
      (hwrite : files.write (machine.scratchFile Machine.mergedName) bytes = .error error) :
      Escape request machine (.text (.file error))
  /-- The assembler ends the run. -/
  | assembly {middle : Machine} {abort : Abort}
      (hstage : Toolchain.StageAbort request.tools.assembler? (fun tool =>
        Toolchain.assembleCommand tool (machine.scratchFile Machine.mergedName) request.output
          request.assembly) middle abort) : Escape request machine abort
  /-- The verifier ends the run. -/
  | verification {last : Machine} {abort : Abort}
      (hstage : Toolchain.StageAbort request.tools.verifier? (fun tool =>
        .ok (Toolchain.verifyCommand tool request.output)) last abort) :
      Escape request machine abort

private theorem escape_of_verifyPatched [Host] {after : Machine} {abort : Abort}
    (habort : (request.verifyPatched injection after).1 = .error abort) :
    Escape request machine abort := by
  have hstage := request.tools.verify_stage request.output after
  rw [verifyPatched_eq] at habort
  split at habort
  · rcases of_proceed_abort habort with hverify | ⟨-, hpatched⟩
    · rw [hverify] at hstage
      exact .verification hstage.of_abort
    · cases hpatched
  · cases habort

private theorem escape_of_assembleMerged [Host] {middle : Machine} {abort : Abort}
    (hdisassembles : request.Disassembles machine.withDirectory middle.files)
    (hscratch : middle.scratch = machine.scratch)
    (habort : (request.assembleMerged injection middle).1 = .error abort) :
    Escape request machine abort := by
  have hfile (name : String) : middle.scratchFile name = machine.scratchFile name := by
    rw [Machine.scratchFile, Machine.scratchFile, hscratch]
  rw [assembleMerged_eq, hfile] at habort
  split at habort
  · next error hwrite =>
    cases habort
    exact .mergedCode hdisassembles hwrite
  · next files hwrite =>
    have hstage := request.tools.assemble_stage (machine.scratchFile Machine.mergedName)
      request.output request.assembly { middle with files }
    rcases of_proceed_abort habort with hassemble | ⟨-, hverify⟩
    · rw [hassemble] at hstage
      exact .assembly hstage.of_abort
    · exact escape_of_verifyPatched hverify

private theorem escape_of_assembleInjected [Host] {middle : Machine} {abort : Abort}
    (hdisassembles : request.Disassembles machine.withDirectory middle.files)
    (hscratch : middle.scratch = machine.scratch)
    (habort : (request.assembleInjected (machine.scratchFile "original.il") middle).1
      = .error abort) : Escape request machine abort := by
  cases hinjected : request.injected middle.files (machine.scratchFile "original.il") with
  | error escaped =>
    rw [assembleInjected_abort hinjected] at habort
    cases habort
    rcases of_bind_error hinjected with hread | ⟨document, hread, hrun⟩
    · exact .code hdisassembles hread
    · exact .sources hdisassembles hread hrun
  | ok found =>
    cases hsucceeded : found.succeeded with
    | true =>
      rw [assembleInjected_merged hinjected hsucceeded] at habort
      exact escape_of_assembleMerged hdisassembles hscratch habort
    | false =>
      rw [assembleInjected_stopped hinjected hsucceeded] at habort
      cases habort

/-- A run whose processes each have an `Ending` ends without a result only for one of these
causes. -/
theorem escape_of_run [Host] {abort : Abort} (habort : (request.run machine).1 = .error abort) :
    Escape request machine abort := by
  rw [fst_run] at habort
  have hstage := request.tools.disassemble_stage request.module (machine.scratchFile "original.il")
    machine.withDirectory
  rcases of_proceed_abort habort with hdisassemble | ⟨hok, hinjected⟩
  · rw [hdisassemble] at hstage
    exact .disassembly hstage.of_abort
  · have hdisassembles := (request.disassembles_iff machine.withDirectory _).mpr ⟨hok, rfl⟩
    exact escape_of_assembleInjected hdisassembles hstage.scratch hinjected

/-- Every outcome is a success or says why it is none. Where there is no outcome, and every process
has an `Ending`, one of the causes above has ended the run. Disassembled code or sources that are of
no use do end it so. -/
theorem run_reports_or_escapes [Host] (request : ModuleRequest) (machine : Machine) :
    (∀ outcome, (request.run machine).1 = .ok outcome → Reports outcome) ∧
      (∀ abort, (request.run machine).1 = .error abort → Escape request machine abort) ∧
      ∀ files abort, request.Disassembles machine.withDirectory files →
        request.injected files (machine.scratchFile "original.il") = .error abort →
        (request.run machine).1 = .error abort := by
  refine ⟨fun _ => reports_of_run, fun _ => escape_of_run, ?_⟩
  intro files abort hdisassembles hinjected
  obtain ⟨hok, rfl⟩ := (request.disassembles_iff machine.withDirectory files).mp hdisassembles
  rw [Machine.scratchFile_withDirectory] at hok hinjected
  rw [fst_run, proceed_of_success hok, assembleInjected_abort hinjected]

/-- A machine whose disassembler exits with code zero and leaves a byte that begins no character. -/
def undecodable : Machine :=
  { oneSourceMachine with
    files := ⟨["w"], [(["w"], .directory), (["w", "F.il"], .file [0xff])]⟩
    script := [.exited 0 "" "" (some [0xff])] }

/-- That machine ends a run without a result. -/
theorem run_reports_or_escapes_undecodable :
    Escape oneSource undecodable (.text (.encoding ⟨0, 1, 0xff, .invalidStart⟩)) :=
  (run_reports_or_escapes oneSource undecodable).2.1 _ rfl

/-- A run says nothing of code that is not UTF-8, while a merge command reports it. -/
theorem exists_run_error :
    (oneSource.run undecodable).1 = .error (.text (.encoding ⟨0, 1, 0xff, .invalidStart⟩)) ∧
      (CommandLine.merge undecodable.files ⟨"F.il", none, false, none⟩).1.exit = .failure :=
  ⟨rfl, rfl⟩

end ModuleRequest

end ILGraft
