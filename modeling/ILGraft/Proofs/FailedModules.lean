import ILGraft.Proofs.MergedLayout
import ILGraft.Proofs.RunFailures

/-!
# What failed runs carry

A run that does not patch its module never names an output. If the module is not disassembled, or
its snippets are not injected, the run carries no merged lines either. Once the lines are merged,
they are carried to the end, though, also if the assembler or the verifier refuses them.
-/

namespace ILGraft

namespace Injection

/-- An injection that fails has no merged lines. -/
theorem lines_of_failed {injection : Injection} (hfailed : injection.succeeded = false) :
    injection.lines = [] := by
  cases injection with
  | merged => cases hfailed
  | misplaced => rfl
  | uncollected => rfl

/-- An injection that succeeds has merged lines, unless its document has no lines at all. -/
theorem lines_eq_nil_iff {document : Document} {read : Reader} {table : LanguageTable}
    {injection : Injection} (hrun : run document read table = .ok injection)
    (hsucceeded : injection.succeeded = true) : injection.lines = [] ↔ document.lines = [] := by
  cases injection with
  | misplaced => cases hsucceeded
  | uncollected => cases hsucceeded
  | merged lines placements warnings =>
    obtain ⟨collection, hcollection, hplacements, rfl, -⟩ := eq_merged_of_run hrun
    obtain ⟨marked⟩ := document
    cases marked with
    | nil =>
      -- No file is named, so nothing is collected and placed.
      cases hcollection
      cases hplacements
      exact iff_of_true rfl rfl
    | cons line rest => simp [lines, Splice.weave, Splice.thread, Document.texts]

end Injection

namespace ModuleRequest

variable {request : ModuleRequest} {machine middle : Machine} {injection : Injection}
  {outcome : ModuleOutcome}

/-- A tool fails on merged code: the assembler, or else the verifier that was asked for. -/
inductive FailsLate [Host] (request : ModuleRequest) (injection : Injection) (middle : Machine)
    (failure : ToolFailure) : Prop
  /-- The assembler fails. -/
  | assembly {files : FileTree}
      (hwrite : middle.files.write (middle.scratchFile Machine.mergedName)
        (Text.Utf8.encode (Document.render injection.lines).toList) = .ok files)
      (hstage : (request.tools.assemble (middle.scratchFile Machine.mergedName) request.output
        request.assembly { middle with files }).1 = .ok (.error failure))
  /-- The assembler does its work, and the verifier fails. -/
  | verification {files : FileTree} {last : Machine}
      (hwrite : middle.files.write (middle.scratchFile Machine.mergedName)
        (Text.Utf8.encode (Document.render injection.lines).toList) = .ok files)
      (hassemble : request.tools.assemble (middle.scratchFile Machine.mergedName) request.output
        request.assembly { middle with files } = (.ok (.ok ()), last))
      (hverify : request.verify = true)
      (hstage : (request.tools.verify request.output last).1 = .ok (.error failure))

/-- Once the lines are merged, no success means that a tool has failed, and the injection is kept
beside the failure. -/
theorem of_assembleMerged_failed [Host]
    (hok : (request.assembleMerged injection middle).1 = .ok outcome)
    (hfailed : outcome.succeeded = false) :
    ∃ failure, outcome = .unassembled injection failure ∧
      FailsLate request injection middle failure := by
  rw [assembleMerged_eq] at hok
  split at hok
  · cases hok
  · next files hwrite =>
    rcases proceed_eq_ok_iff.mp hok with ⟨failure, hstage, rfl⟩ | ⟨hassembled, hverified⟩
    · exact ⟨failure, rfl, .assembly hwrite hstage⟩
    · rw [verifyPatched_eq] at hverified
      split at hverified
      · next hverify =>
        rcases proceed_eq_ok_iff.mp hverified with ⟨failure, hstage, rfl⟩ | ⟨-, hpatched⟩
        · exact ⟨failure, rfl, .verification hwrite (Prod.ext hassembled rfl) hverify hstage⟩
        · cases hpatched
          cases hfailed
      · cases hverified
        cases hfailed

/-- A run that does not patch its module has no output. It has merged lines exactly if it has failed
as late as in the assembler or in the verifier, on a document that is not empty. -/
theorem run_failed [Host] (hok : (request.run machine).1 = .ok outcome)
    (hfailed : outcome.succeeded = false) :
    let code := machine.scratchFile "original.il"
    let disassembled := request.tools.disassemble request.module code machine.withDirectory
    let middle := disassembled.2
    outcome.output? = none ∧
    match outcome with
    | .undisassembled failure => disassembled.1 = .ok (.error failure) ∧ outcome.lines = []
    | .stopped injection =>
      disassembled.1 = .ok (.ok ()) ∧ request.injected middle.files code = .ok injection ∧
        injection.succeeded = false ∧ outcome.lines = []
    | .unassembled injection failure =>
      disassembled.1 = .ok (.ok ()) ∧ ∃ document, readDocument middle.files code = .ok document ∧
        Injection.run document (Source.reader middle.files) request.languages = .ok injection ∧
        injection.succeeded = true ∧ FailsLate request injection middle failure ∧
        outcome.lines = injection.lines ∧ (outcome.lines = [] ↔ document.lines = [])
    | .patched .. => False := by
  intro code disassembled middle
  rw [fst_run] at hok
  rcases proceed_eq_ok_iff.mp hok with ⟨failure, hstage, rfl⟩ | ⟨hstage, hrest⟩
  · exact ⟨rfl, hstage, rfl⟩
  · cases hinjected : request.injected middle.files code with
    | error abort =>
      rw [assembleInjected_abort hinjected] at hrest
      cases hrest
    | ok injection =>
      cases hsucceeded : injection.succeeded with
      | false =>
        rw [assembleInjected_stopped hinjected hsucceeded] at hrest
        cases hrest
        exact ⟨rfl, hstage, rfl, hsucceeded, Injection.lines_of_failed hsucceeded⟩
      | true =>
        rw [assembleInjected_merged hinjected hsucceeded] at hrest
        obtain ⟨failure, rfl, hlate⟩ := of_assembleMerged_failed hrest hfailed
        obtain ⟨document, hdocument, hrun⟩ := of_bind_ok hinjected
        exact ⟨rfl, hstage, document, hdocument, hrun, hsucceeded, hlate, rfl,
          Injection.lines_eq_nil_iff hrun hsucceeded⟩

/-- A machine whose disassembler works, and whose other tools end as given. -/
def machineEnding (endings : List Ending) : Machine :=
  { oneSourceMachine with script := oneSourceMachine.script ++ endings }

/-- A result that can be seen to be no success and to have lines. -/
private theorem exists_of_seen {result : Except Abort ModuleOutcome}
    (hseen : (result.toOption.map fun outcome => (outcome.succeeded, outcome.lines.isEmpty)) =
      some (false, false)) :
    ∃ outcome, result = .ok outcome ∧ outcome.succeeded = false ∧ outcome.lines ≠ [] := by
  cases result with
  | error abort => cases hseen
  | ok outcome =>
    obtain ⟨hfailed, hlines⟩ := Prod.mk.inj (Option.some.inj hseen)
    exact ⟨outcome, rfl, hfailed, List.isEmpty_eq_false_iff.mp hlines⟩

/-- There is no output if the assembler refuses the merged code. -/
theorem run_failed_assembler :
    ∃ outcome, (oneSource.run (machineEnding [.exited 1 "" "" none])).1 = .ok outcome ∧
      outcome.succeeded = false ∧ outcome.output? = none := by
  have hseen : ((oneSource.run (machineEnding [.exited 1 "" "" none])).1.toOption.map fun outcome =>
      (outcome.succeeded, outcome.lines.isEmpty)) = some (false, false) := by
    decide +kernel
  obtain ⟨outcome, hok, hfailed, -⟩ := exists_of_seen hseen
  exact ⟨outcome, hok, hfailed, (run_failed hok hfailed).1⟩

/-- There are merged lines if the assembler fails, and if the verifier fails. -/
theorem exists_failed_lines :
    (∃ outcome, (oneSource.run (machineEnding [.exited 1 "" "" none])).1 = .ok outcome ∧
      outcome.succeeded = false ∧ outcome.lines ≠ []) ∧
    ∃ outcome, (oneSource.run (machineEnding [.exited 0 "" "" none, .exited 1 "" "" none])).1 =
      .ok outcome ∧ outcome.succeeded = false ∧ outcome.lines ≠ [] := by
  refine ⟨exists_of_seen ?_, exists_of_seen ?_⟩ <;> decide +kernel

end ModuleRequest

end ILGraft
