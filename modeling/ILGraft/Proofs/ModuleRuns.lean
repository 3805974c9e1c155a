import ILGraft.Proofs.ModuleStages

/-!
# Runs on modules

A run starts its processes in order and none behind a failure, hands the assembler what a merge
command writes, succeeds exactly if every process and the injection did, and leaves nothing among
the temporary files.
-/

namespace ILGraft

/-- The machine once there is a directory for temporary files. -/
def Machine.withDirectory (machine : Machine) : Machine :=
  { machine with files := machine.files.add machine.scratch .directory }

/-- The directory stands where it was planned. -/
@[simp] theorem Machine.scratchFile_withDirectory (machine : Machine) (name : String) :
    machine.withDirectory.scratchFile name = machine.scratchFile name := rfl

/-- The disassembler is told to write the file that its last argument names, unless the path of the
module reads like an option that names another one. -/
theorem Toolchain.target?_disassembleCommand {module : Path}
    (hmodule : valueOfOption? "/out=" module.toString = none ∧
      valueOfOption? "/output=" module.toString = none) (tool : Toml.Value) (output : Path) :
    (disassembleCommand tool module output).target? = some output.toString := by
  have hfirst : (valueOfOption? "/out=" module.toString <|>
      valueOfOption? "/output=" module.toString) = none := by
    rw [hmodule.1, hmodule.2]
    rfl
  have hplain : ∀ word ∈ ["/linenum", "/text", "/nobar"],
      (valueOfOption? "/out=" word <|> valueOfOption? "/output=" word) = none := by decide
  have hlast : valueOfOption? "/out=" ("/out=" ++ output.toString) = some output.toString := by
    rw [valueOfOption?, String.toList_append,
      List.isPrefixOf?_eq_some_iff_append_eq.mpr rfl, Option.map_some, String.ofList_toList]
  rw [Command.target?, disassembleCommand]
  simp only [List.findSome?_cons, hfirst, hplain "/linenum" (by simp), hplain "/text" (by simp),
    hplain "/nobar" (by simp), hlast]
  rfl

/-- A process that writes its target file installs it. -/
theorem Machine.afterWriting_of_target {files : FileTree} {command : Command} {target : String}
    (htarget : command.target? = some target) (bytes : List UInt8) :
    afterWriting files command (some bytes) = files.install (Path.ofString target) bytes := by
  delta afterWriting
  rw [htarget]

namespace ModuleRequest

/-- What the disassembler writes is found in the file it was told to write, if the path of the
module does not read like an option. -/
theorem Disassembles.readBytes {request : ModuleRequest} {machine : Machine} {files : FileTree}
    (hdisassembles : request.Disassembles machine files)
    (hmodule : valueOfOption? "/out=" request.module.toString = none ∧
      valueOfOption? "/output=" request.module.toString = none)
    {bytes : List UInt8} (hwritten : (machine.endingOf 0).written? = some bytes) :
    files.readBytes (machine.scratchFile "original.il") = .ok bytes := by
  obtain ⟨command, hplanned, -, hfiles⟩ := hdisassembles
  obtain ⟨tool, -, hcommand⟩ := of_planned hplanned
  have htarget : command.target? = some (machine.scratchFile "original.il").toString := by
    rw [← Except.ok.inj hcommand]
    exact Toolchain.target?_disassembleCommand hmodule tool _
  have hname : Path.IsName "original.il" := by decide
  rw [hwritten, Machine.afterWriting_of_target htarget] at hfiles
  rw [← machine.ofString_scratchFile hname]
  exact FileTree.readBytes_of_install hfiles

/-- The processes of a run are started as planned, each only if all before it exited with code zero.
The assembler is started only on merged code: the injection into what the disassembler left has
succeeded, and a merge command with the same code, sources and languages writes the same text. The
outcome is a success, with the patched module, exactly if all processes and the injection were. At
the end there are no temporary files. -/
theorem run_stages [Host] (request : ModuleRequest) (machine : Machine) :
    ∃ started, (request.run machine).2.runs = machine.runs ++ started ∧
      started.map (fun run => some run.command) <+: request.commands machine ∧
      (∀ index, index + 1 < started.length → (machine.endingOf index).Succeeds) ∧
      (∀ run ∈ started[1]?, ∃ files document lines,
        request.Disassembles machine.withDirectory files ∧
        request.WorksOnMerged files (machine.scratchFile "original.il") document lines run ∧
        ∀ tree merge output written, CommandLine.Matches tree merge output request.languages files
            (machine.scratchFile "original.il") document →
          tree.write (Path.ofString output) (Text.Utf8.encode (Document.render lines).toList)
            = .ok written →
          (CommandLine.merge tree merge).1.exit = .success ∧
            (CommandLine.merge tree merge).2 = written ∧
            written.readBytes (Path.ofString output) =
              .ok (Text.Utf8.encode (Document.render lines).toList)) ∧
      (∀ outcome, (request.run machine).1 = .ok outcome →
        (outcome.succeeded = true ↔
          started.length = (request.commands machine).length ∧
          (∀ index < (request.commands machine).length, (machine.endingOf index).Succeeds) ∧
          ∃ injection, outcome.injection? = some injection ∧ injection.succeeded = true) ∧
        outcome.output? = if outcome.succeeded then some request.output else none) ∧
      ∀ place, machine.scratch <+: place → FileTree.entry? (request.run machine).2.files place = none := by
  obtain ⟨started, hcarried, hsecond⟩ := request.runWithScratch_carried machine.withDirectory
  have hscratch : (request.runWithScratch machine.withDirectory).2.scratch = machine.scratch :=
    hcarried.recorded.scratch
  refine ⟨started, hcarried.recorded.runs, hcarried.commands, hcarried.zero, fun run hrun => ?_,
    fun outcome houtcome => ⟨⟨fun hsucceeded => ?_, fun hall => ?_⟩, ?_⟩, fun place hplace => ?_⟩
  · obtain ⟨files, document, lines, hdisassembles, hdocument, ⟨placements, warnings, hinjection⟩,
      hmerged⟩ := hsecond run hrun
    refine ⟨files, document, lines, hdisassembles,
      ⟨hdocument, ⟨placements, warnings, hinjection⟩, hmerged⟩, ?_⟩
    intro tree merge output written hmatches hwrite
    exact CommandLine.merge_of_matches hmatches hdocument hinjection hwrite
  · obtain ⟨hlength, hzero⟩ := (hcarried.succeeded outcome houtcome).mp hsucceeded
    exact ⟨hlength, hzero, (hcarried.injected outcome houtcome hsucceeded).2⟩
  · exact (hcarried.succeeded outcome houtcome).mpr ⟨hall.1, hall.2.1⟩
  · by_cases hsucceeded : outcome.succeeded = true
    · rw [(hcarried.injected outcome houtcome hsucceeded).1, if_pos hsucceeded]
    · rw [if_neg hsucceeded]
      cases outcome with
      | patched => exact absurd rfl hsucceeded
      | undisassembled => rfl
      | stopped => rfl
      | unassembled => rfl
  · have hfiles : (request.run machine).2.files =
        (request.runWithScratch machine.withDirectory).2.files.remove
          (request.runWithScratch machine.withDirectory).2.scratch := rfl
    rw [hfiles, hscratch]
    exact FileTree.entry?_remove machine.scratch_ne_nil hplace

/-- A module whose code comes from one source file. -/
def oneSource : ModuleRequest where
  module := ⟨.working, ["F.exe"]⟩
  output := ⟨.working, ["G.exe"]⟩
  assembly := {}
  languages := []
  tools := ⟨some (.text "ildasm"), some (.text "ilasm"), some (.text "peverify"), .integer 120⟩
  verify := true

/-- A machine with that source file, and a disassembler that writes code with two marks of it. -/
def oneSourceMachine : Machine where
  files := ⟨["w"], [(["w"], .directory),
    (["w", "A.cs"], .file (Text.Utf8.encode "a\n#if IL\nadd\n#endif\n".toList))]⟩
  scratch := ["tmp"]
  script := [.exited 0 "" "" (some (Text.Utf8.encode
    ".line 1,1 : 1,2 'A.cs'\nnop\n.line 9,9 : 1,2 ''\nret\n".toList))]

/-- With tools that all succeed, the module is patched by three processes. -/
theorem run_stages_oneSource :
    ∃ started outcome, (oneSource.run oneSourceMachine).2.runs = started ∧ started.length = 3 ∧
      (oneSource.run oneSourceMachine).1 = .ok outcome ∧ outcome.output? = some oneSource.output := by
  obtain ⟨started, hruns, -, -, -, houtcome, -⟩ := run_stages oneSource oneSourceMachine
  have hsucceeded : (oneSource.run oneSourceMachine).1.toOption.map ModuleOutcome.succeeded =
      some true := by decide +kernel
  obtain ⟨outcome, hresult⟩ : ∃ outcome, (oneSource.run oneSourceMachine).1 = .ok outcome := by
    cases hresult : (oneSource.run oneSourceMachine).1 with
    | error abort => simp only [hresult, Except.toOption, Option.map_none, reduceCtorEq] at hsucceeded
    | ok outcome => exact ⟨outcome, rfl⟩
  rw [hresult] at hsucceeded
  have hsucceeded : outcome.succeeded = true := Option.some.inj hsucceeded
  obtain ⟨hiff, houtput⟩ := houtcome outcome hresult
  rw [if_pos hsucceeded] at houtput
  exact ⟨started, outcome, hruns, (hiff.mp hsucceeded).1, hresult, houtput⟩

end ModuleRequest

end ILGraft
