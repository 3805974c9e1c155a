import ILGraft.Proofs.MergeReports
import ILGraft.Proofs.ReaderCalls

/-!
# Warnings of guessed languages

A file with an unknown extension is scanned as C#, and a warning says so. The warnings of all files
that are reached are part of what an injection reports, in front of its fault, once every file has
been collected. A collection that ends early is reported by its fault alone, so the guesses that
were made until then are not mentioned.
-/

namespace ILGraft

namespace Collection

variable {table : LanguageTable} {read : Reader}

/-- The files that are reached: those up to the first one that is not collected. -/
def reached (table : LanguageTable) (read : Reader) : List String → List String
  | [] => []
  | file :: rest =>
    match ofAnswer table file (read file) with
    | .ok _ => file :: reached table read rest
    | .error _ => [file]

/-- After a file that is collected, the others are reached. -/
theorem reached_cons_ok {file : String} {first : Collection}
    (hfirst : ofAnswer table file (read file) = .ok first) (rest : List String) :
    reached table read (file :: rest) = file :: reached table read rest := by
  rw [reached, hfirst]

/-- After a file that is not collected, no other is reached. -/
theorem reached_cons_error {file : String} {stop : Source.Stop}
    (hstop : ofAnswer table file (read file) = .error stop) (rest : List String) :
    reached table read (file :: rest) = [file] := by
  rw [reached, hstop]

/-- Files are reached from the first one on. -/
theorem reached_isPrefix (table : LanguageTable) (read : Reader) (files : List String) :
    reached table read files <+: files := by
  induction files with
  | nil => exact List.prefix_rfl
  | cons file rest ih =>
    cases hanswer : ofAnswer table file (read file) with
    | ok first =>
      rw [reached_cons_ok hanswer, List.cons_prefix_cons]
      exact ⟨rfl, ih⟩
    | error stop =>
      rw [reached_cons_error hanswer]
      exact ⟨rest, rfl⟩

/-- A collection has reached all files, and it has the warnings for them. -/
theorem reached_of_ok {files : List String} {collection : Collection}
    (hok : ofFiles (m := Id) table read files = .ok collection) :
    reached table read files = files ∧ collection.warnings = guesses table files := by
  induction files generalizing collection with
  | nil =>
    cases hok
    exact ⟨rfl, rfl⟩
  | cons file rest ih =>
    rw [ofFiles_cons] at hok
    cases hfirst : ofAnswer table file (read file) with
    | error stop => simp only [hfirst, Except.bind, reduceCtorEq] at hok
    | ok first =>
      cases hmore : ofFiles (m := Id) table read rest with
      | error stop => simp only [hfirst, hmore, Except.bind, Except.map, reduceCtorEq] at hok
      | ok more =>
        rw [hfirst, hmore] at hok
        cases hok
        obtain ⟨hreached, hwarnings⟩ := ih hmore
        refine ⟨by rw [reached_cons_ok hfirst, hreached], ?_⟩
        rw [guesses_cons, ← hwarnings, ← (ofAnswer_eq_ok_iff.mp hfirst).2]

/-- A collection that ends early has collected all files reached but the last one, which ends it. -/
theorem reached_of_error {files : List String} {stop : Source.Stop}
    (herror : ofFiles (m := Id) table read files = .error stop) :
    ∃ before file, reached table read files = before ++ [file] ∧
      (∀ earlier ∈ before, ∃ collection, ofAnswer table earlier (read earlier) = .ok collection) ∧
      ofAnswer table file (read file) = .error stop := by
  rw [ofFiles_eq_mapM, map_eq_error_iff, mapM_eq_error_iff] at herror
  obtain ⟨before, file, after, rfl, hbefore, hfile⟩ := herror
  refine ⟨before, file, ?_, hbefore, hfile⟩
  induction before with
  | nil => exact reached_cons_error hfile after
  | cons earlier before ih =>
    obtain ⟨⟨first, hfirst⟩, hbefore⟩ := List.forall_mem_cons.mp hbefore
    rw [List.cons_append, reached_cons_ok hfirst, ih hbefore, List.cons_append]

/-- Nothing is guessed exactly if something is known of every extension. -/
theorem guesses_eq_nil_iff {files : List String} :
    guesses table files = [] ↔ ∀ file ∈ files, table.choose file ≠ .unknown := by
  simp only [guesses, List.map_eq_nil_iff, List.filter_eq_nil_iff, decide_eq_true_eq, ne_eq]

end Collection

namespace Injection

variable {document : Document} {table : LanguageTable} {read : Reader} {injection : Injection}

/-- Once all source files are collected, the warnings for all of them are reported, in front of the
fault if there is one; if a file is not collected, its fault is all that is reported, so warnings are
missing exactly if the language of a file reached was guessed. -/
theorem run_diagnostics (hrun : run document read table = .ok injection) :
    let reached := Collection.reached table read document.sourceFiles
    let guesses := Collection.guesses table reached
    reached <+: document.sourceFiles ∧ reached.Nodup ∧
    match injection with
    | .merged .. => reached = document.sourceFiles ∧ injection.diagnostics = guesses
    | .misplaced _ _ fault =>
      reached = document.sourceFiles ∧ injection.diagnostics = guesses ++ [fault.diagnostic]
    | .uncollected fault =>
      (∃ before file, reached = before ++ [file] ∧
        (∀ earlier ∈ before, ∃ collection,
          Collection.ofAnswer table earlier (read earlier) = .ok collection) ∧
        Collection.ofAnswer table file (read file) = .error (.fault fault)) ∧
      injection.diagnostics = [fault.diagnostic] ∧
      (injection.diagnostics = guesses ++ [fault.diagnostic] ↔
        ∀ file ∈ reached, table.choose file ≠ .unknown) := by
  intro reached guesses
  have hreaches := Collection.reached_isPrefix table read document.sourceFiles
  refine ⟨hreaches, hreaches.sublist.nodup document.nodup_sourceFiles, ?_⟩
  rw [run] at hrun
  cases hcollection : Collection.ofDocument (m := Id) document table read with
  | error stop =>
    rw [hcollection] at hrun
    cases stop with
    | nullInName => cases hrun
    | markersNotText => cases hrun
    | fault fault =>
      cases hrun
      refine ⟨Collection.reached_of_error hcollection, rfl, ?_⟩
      rw [← Collection.guesses_eq_nil_iff, diagnostics, List.self_eq_append_left]
  | ok collection =>
    obtain ⟨hreached, hwarnings⟩ := Collection.reached_of_ok hcollection
    have hguesses : collection.warnings = guesses := by
      rw [hwarnings]
      exact congrArg (Collection.guesses table) hreached.symm
    simp only [hcollection, ofCollection] at hrun
    split at hrun
    · cases hrun
      exact ⟨hreached, by rw [diagnostics, hguesses]⟩
    · split at hrun
      · cases hrun
      · cases hrun
        exact ⟨hreached, by rw [diagnostics, hguesses]⟩

/-- A document that names a file with an unknown extension. -/
def oneGuess : Document where
  lines := [⟨".line 3,3 : 9,20 'gen.txt'", ⟨some "gen.txt", 3⟩, by decide +kernel⟩]

/-- The snippet of a block that is all that its file holds. -/
def blockAlone : Snippet :=
  ⟨"gen.txt", 2, 2, ["add"], by decide⟩

/-- The guess is reported with the snippet that has no place. -/
theorem run_diagnostics_blockAlone :
    run oneGuess (fun _ => .ok "#if IL\nadd\n#endif\n") [] =
        .ok (.misplaced [blockAlone] [Collection.guessedLanguage "gen.txt"]
          (.unplaced blockAlone)) ∧
      Collection.reached [] (fun _ => .ok "#if IL\nadd\n#endif\n") oneGuess.sourceFiles =
        oneGuess.sourceFiles := by
  have hrun : run oneGuess (fun _ => .ok "#if IL\nadd\n#endif\n") [] =
      .ok (.misplaced [blockAlone] [Collection.guessedLanguage "gen.txt"]
        (.unplaced blockAlone)) := by
    decide +kernel
  exact ⟨hrun, (run_diagnostics hrun).2.2.1⟩

/-- The guess is not reported if the file cannot be read, although the file is reached. -/
theorem exists_unreported_guess :
    ∃ fault, run oneGuess (fun _ => .error (.refused "No such file or directory")) [] =
        .ok (.uncollected fault) ∧
      Collection.guesses [] (Collection.reached []
        (fun _ => .error (.refused "No such file or directory")) oneGuess.sourceFiles) =
        [Collection.guessedLanguage "gen.txt"] ∧
      (Injection.uncollected fault).diagnostics ≠
        [Collection.guessedLanguage "gen.txt", fault.diagnostic] := by
  refine ⟨.unavailable "gen.txt" "No such file or directory", ?_, ?_, ?_⟩ <;> decide +kernel

end Injection

end ILGraft
