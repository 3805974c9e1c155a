import ILGraft.Toolchain
import Mathlib.Data.List.Basic

/-!
# Runs of tools

Starting a process records it, uses up one ending that was written down, and leaves the place for
temporary files alone. A tool has done its work exactly if its process exits with code zero; where
there is no tool, or no command for it, nothing is started.
-/

namespace ILGraft

/-- A process exits with code zero. -/
def Ending.Succeeds : Ending → Prop
  | .exited code _ _ _ => code = 0
  | _ => False

/-- What a process writes into its target file, if it writes one. -/
def Ending.written? : Ending → Option (List UInt8)
  | .exited _ _ _ written? => written?
  | _ => none

namespace Machine

/-- How a process ends that is started after so many others. -/
def endingOf (machine : Machine) (index : Nat) : Ending :=
  machine.script.getD index (.exited 0 "" "" none)

/-- The record of a process that is started on a machine. -/
def recordOf (machine : Machine) (command : Command) (timeout : Toml.Value) : Run :=
  ⟨command, timeout, mergedInput? machine.files command⟩

/-- All that has happened to a machine, its files apart, is that processes were started. -/
structure Started (before after : Machine) (started : List Run) : Prop where
  /-- Every process is recorded. -/
  runs : after.runs = before.runs ++ started
  /-- Every process has used up an ending. -/
  script : after.script = before.script.drop started.length
  /-- Temporary files lie where they did. -/
  scratch : after.scratch = before.scratch

/-- On a machine on which nothing has happened, nothing was started. -/
theorem Started.refl (machine : Machine) : machine.Started machine [] :=
  ⟨(List.append_nil _).symm, rfl, rfl⟩

/-- Processes that are started later are recorded behind the earlier ones. -/
theorem Started.trans {first second third : Machine} {earlier later : List Run}
    (hearlier : first.Started second earlier) (hlater : second.Started third later) :
    first.Started third (earlier ++ later) where
  runs := by rw [hlater.runs, hearlier.runs, List.append_assoc]
  script := by rw [hlater.script, hearlier.script, List.drop_drop, List.length_append]
  scratch := hlater.scratch.trans hearlier.scratch

/-- The endings that are left come behind those that were used up. -/
theorem Started.endingOf {before after : Machine} {started : List Run}
    (hstarted : before.Started after started) (index : Nat) :
    after.endingOf index = before.endingOf (started.length + index) := by
  rw [Machine.endingOf, Machine.endingOf, hstarted.script, List.getD_eq_getElem?_getD,
    List.getElem?_drop, List.getD_eq_getElem?_getD]

/-- Starting a process records it. -/
theorem start_started (machine : Machine) (command : Command) (timeout : Toml.Value) :
    machine.Started (machine.start command timeout).2 [machine.recordOf command timeout] := by
  have hscript (script : List Ending) : script.tail = script.drop 1 := by
    cases script <;> rfl
  simp only [start]
  split
  · split
    · exact ⟨rfl, hscript _, rfl⟩
    · exact ⟨rfl, hscript _, rfl⟩
  · exact ⟨rfl, hscript _, rfl⟩

end Machine

namespace Toolchain

/-- How the run of a tool ends, by the way its process ends: the result, and the files that are left.
Without a result it ends where the system refuses the target file that the process writes, and
where the name of a program that does not exist cannot be given. -/
inductive Ran [Host] (command : Command) (machine : Machine) :
    Except Abort (Except ToolFailure Unit) → FileTree → Prop
  /-- The process exits with code zero. -/
  | succeeded {files : FileTree} (hzero : (machine.endingOf 0).Succeeds)
      (hfiles : Machine.afterWriting machine.files command (machine.endingOf 0).written?
        = .ok files) : Ran command machine (.ok (.ok ())) files
  /-- The process ends in another way. -/
  | failed {failure : ToolFailure} {files : FileTree} (hfailed : ¬(machine.endingOf 0).Succeeds) :
      Ran command machine (.ok (.error failure)) files
  /-- The target file cannot be written. -/
  | unwritten {error : FileError} {files : FileTree}
      (hwrite : Machine.afterWriting machine.files command (machine.endingOf 0).written?
        = .error error) : Ran command machine (.error (.text (.file error))) files
  /-- The program does not exist and its name cannot be given. -/
  | unnamed {fault : Toml.Value.Unwritable} {files : FileTree}
      (hending : machine.endingOf 0 = .notFound) (hprogram : command.program.display = .error fault) :
      Ran command machine (.error (.ofUnwritable fault)) files

/-- A tool that has done its work has a process that succeeded and wrote its target file. -/
theorem Ran.of_success [Host] {command : Command} {machine : Machine} {files : FileTree}
    (hran : Ran command machine (.ok (.ok ())) files) :
    (machine.endingOf 0).Succeeds ∧
      Machine.afterWriting machine.files command (machine.endingOf 0).written? = .ok files := by
  cases hran with
  | succeeded hzero hfiles => exact ⟨hzero, hfiles⟩

/-- A tool that has failed has a process that did not succeed. -/
theorem Ran.of_failure [Host] {command : Command} {machine : Machine} {files : FileTree}
    {failure : ToolFailure} (hran : Ran command machine (.ok (.error failure)) files) :
    ¬(machine.endingOf 0).Succeeds := by
  cases hran with
  | failed hfailed => exact hfailed

/-- A tool runs as its process does. -/
theorem run_ran [Host] (activity : Activity) (command : Command) (timeout : Toml.Value)
    (machine : Machine) :
    Ran command machine (run activity command timeout machine).1
      (run activity command timeout machine).2.files := by
  have hnext : machine.script.headD (.exited 0 "" "" none) = machine.endingOf 0 := by
    rw [Machine.endingOf]
    cases machine.script <;> rfl
  simp only [run, Machine.start, hnext]
  cases hending : machine.endingOf 0 with
  | notFound =>
    cases hprogram : command.program.display with
    | ok program => exact .failed (by rw [hending]; exact id)
    | error fault => exact .unnamed hending hprogram
  | timedOut => exact .failed (by rw [hending]; exact id)
  | exited code output errors written? =>
    have hwritten : (machine.endingOf 0).written? = written? := by rw [hending]; rfl
    cases hfiles : Machine.afterWriting machine.files command written? with
    | error error =>
      simp only [hfiles]
      exact .unwritten (by rw [hwritten, hfiles])
    | ok files =>
      by_cases hcode : code = 0
      · simp only [hfiles, if_pos hcode]
        exact .succeeded (by rw [hending]; exact hcode) (by rw [hwritten, hfiles])
      · simp only [hfiles, if_neg hcode]
        exact .failed (by rw [hending]; exact hcode)

/-- Running a tool starts one process. -/
theorem run_started [Host] (activity : Activity) (command : Command) (timeout : Toml.Value)
    (machine : Machine) :
    machine.Started (run activity command timeout machine).2
      [machine.recordOf command timeout] := by
  have hmachine : (run activity command timeout machine).2
      = (machine.start command timeout).2 := by
    rw [run]
    match machine.start command timeout with
    | (.error _, _) => rfl
    | (.ok .notFound, _) => cases command.program.display <;> rfl
    | (.ok .timedOut, _) => rfl
    | (.ok (.exited code _ _ _), _) =>
      dsimp only
      split <;> rfl
  rw [hmachine]
  exact machine.start_started command timeout

/-- What becomes of a machine when a tool is to be run: its process is started, unless there is no
such tool or its command cannot be written. -/
inductive Stage [Host] (tool? : Option Toml.Value)
    (command : Toml.Value → Except Toml.Value.Unwritable Command) (timeout : Toml.Value)
    (machine : Machine) : Except Abort (Except ToolFailure Unit) → Machine → Prop
  /-- There is no tool. -/
  | missing {failure : ToolFailure} (htool : tool? = none) :
      Stage tool? command timeout machine (.ok (.error failure)) machine
  /-- The command of the tool cannot be written. -/
  | unwritable {tool : Toml.Value} {fault : Toml.Value.Unwritable} (htool : tool? = some tool)
      (hcommand : command tool = .error fault) :
      Stage tool? command timeout machine (.error (.ofUnwritable fault)) machine
  /-- The process of the tool is started. -/
  | started {tool : Toml.Value} {written : Command}
      {result : Except Abort (Except ToolFailure Unit)} {after : Machine}
      (htool : tool? = some tool) (hcommand : command tool = .ok written)
      (hstarted : machine.Started after [machine.recordOf written timeout])
      (hran : Ran written machine result after.files) :
      Stage tool? command timeout machine result after

/-- A stage whose tool has done its work has started a process, which succeeded and wrote its target
file. -/
theorem Stage.of_success [Host] {tool? : Option Toml.Value}
    {command : Toml.Value → Except Toml.Value.Unwritable Command} {timeout : Toml.Value}
    {machine after : Machine} (hstage : Stage tool? command timeout machine (.ok (.ok ())) after) :
    ∃ tool written, tool? = some tool ∧ command tool = .ok written ∧
      (machine.endingOf 0).Succeeds ∧
      Machine.afterWriting machine.files written (machine.endingOf 0).written?
        = .ok after.files := by
  cases hstage with
  | started htool hcommand hstarted hran => exact ⟨_, _, htool, hcommand, hran.of_success⟩

/-- A stage whose process succeeds and writes its target file does its work. -/
theorem Stage.eq_success [Host] {tool? : Option Toml.Value}
    {command : Toml.Value → Except Toml.Value.Unwritable Command} {timeout : Toml.Value}
    {machine after : Machine} {tool : Toml.Value} {written : Command} {files : FileTree}
    {answer : Except Abort (Except ToolFailure Unit)}
    (hstage : Stage tool? command timeout machine answer after) (htool : tool? = some tool)
    (hcommand : command tool = .ok written) (hzero : (machine.endingOf 0).Succeeds)
    (hfiles : Machine.afterWriting machine.files written (machine.endingOf 0).written?
      = .ok files) : answer = .ok (.ok ()) ∧ after.files = files := by
  cases hstage with
  | missing hmissing => cases htool.symm.trans hmissing
  | unwritable hother hfault =>
    cases htool.symm.trans hother
    cases hcommand.symm.trans hfault
  | started hother hwritten hstarted hran =>
    cases htool.symm.trans hother
    cases hcommand.symm.trans hwritten
    cases hran with
    | succeeded _ hleft => exact ⟨rfl, Except.ok.inj (hleft.symm.trans hfiles)⟩
    | failed hfailed => exact absurd hzero hfailed
    | unwritten hwrite => cases hwrite.symm.trans hfiles
    | unnamed hending =>
      rw [hending] at hzero
      exact hzero.elim

/-- A stage leaves the place for temporary files alone. -/
theorem Stage.scratch [Host] {tool? : Option Toml.Value}
    {command : Toml.Value → Except Toml.Value.Unwritable Command} {timeout : Toml.Value}
    {machine after : Machine} {result : Except Abort (Except ToolFailure Unit)}
    (hstage : Stage tool? command timeout machine result after) :
    after.scratch = machine.scratch := by
  cases hstage with
  | missing => rfl
  | unwritable => rfl
  | started _ _ hstarted _ => exact hstarted.scratch

/-- A tool that is looked for before it is run goes through one stage. -/
theorem runIfFound_stage [Host] (activity : Activity) (tool? : Option Toml.Value)
    (command : Toml.Value → Except Toml.Value.Unwritable Command) (timeout : Toml.Value)
    (machine : Machine) :
    Stage tool? command timeout machine
      (runIfFound activity tool? command timeout machine).1
      (runIfFound activity tool? command timeout machine).2 := by
  rw [runIfFound]
  cases tool? with
  | none => exact .missing rfl
  | some tool =>
    simp only [Option.map_some]
    cases hcommand : command tool with
    | error fault => exact .unwritable rfl hcommand
    | ok written =>
      exact .started rfl hcommand (run_started activity written timeout machine)
        (run_ran activity written timeout machine)

/-- The disassembler goes through one stage. -/
theorem disassemble_stage [Host] (tools : Toolchain) (module output : Path) (machine : Machine) :
    Stage tools.disassembler? (fun tool => .ok (disassembleCommand tool module output))
      tools.timeout machine (tools.disassemble module output machine).1
      (tools.disassemble module output machine).2 :=
  runIfFound_stage ..

/-- The assembler goes through one stage. -/
theorem assemble_stage [Host] (tools : Toolchain) (code output : Path) (settings : AssemblySettings)
    (machine : Machine) :
    Stage tools.assembler? (fun tool => assembleCommand tool code output settings) tools.timeout
      machine (tools.assemble code output settings machine).1
      (tools.assemble code output settings machine).2 :=
  runIfFound_stage ..

/-- The verifier goes through one stage. -/
theorem verify_stage [Host] (tools : Toolchain) (module : Path) (machine : Machine) :
    Stage tools.verifier? (fun tool => .ok (verifyCommand tool module)) tools.timeout machine
      (tools.verify module machine).1 (tools.verify module machine).2 :=
  runIfFound_stage ..

end Toolchain

end ILGraft
