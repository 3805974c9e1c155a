import ILGraft.Block
import Mathlib.Data.List.Basic

/-!
# Blocks that are left open

Lines are settled if every block that is opened in them is closed before another one is opened.
All other lines have a first block that is left open: the lines in front of it are settled, and it
ends with the source or at a second opening marker. The scanner refuses exactly these lines, and
names that block.
-/

namespace ILGraft.Block

variable {language : Language}

/-- A line that opens a block. -/
def Opens (language : Language) (line : String) : Prop :=
  markOf line = Text.lower language.opening.toList

/-- A line that closes a block. -/
def Closes (language : Language) (line : String) : Prop :=
  markOf line = Text.lower language.closing.toList

/-- A line of code, neither of the two markers. -/
def IsCode (language : Language) (line : String) : Prop :=
  ¬Opens language line ∧ ¬Closes language line

/-- Lines in which every block is closed. -/
inductive Settled (language : Language) : List String → Prop
  /-- There are no lines. -/
  | nil : Settled language []
  /-- A line outside of blocks opens none. -/
  | outside {line : String} {rest : List String} (hline : ¬Opens language line)
      (hrest : Settled language rest) : Settled language (line :: rest)
  /-- A block is opened, holds code, and is closed. -/
  | block {opener closer : String} {code rest : List String} (hopener : Opens language opener)
      (hcode : ∀ line ∈ code, IsCode language line) (hcloser : Closes language closer)
      (hrest : Settled language rest) : Settled language (opener :: (code ++ closer :: rest))

/-- A block that is opened behind the given settled lines and is not closed: the source ends in it,
or it is opened a second time. -/
def LeftOpen (language : Language) (lines before : List String) : Prop :=
  ∃ opener code rest, lines = before ++ opener :: (code ++ rest) ∧ Settled language before ∧
    Opens language opener ∧ (∀ line ∈ code, IsCode language line) ∧
    ∀ line ∈ rest.head?, Opens language line ∧ ¬Closes language line

/-- Whatever stands in front of a line that opens no block, it leaves the same blocks open. -/
theorem LeftOpen.outside {line : String} {lines before : List String}
    (hline : ¬Opens language line) (hopen : LeftOpen language lines before) :
    LeftOpen language (line :: lines) (line :: before) := by
  obtain ⟨opener, code, rest, rfl, hbefore, hblock⟩ := hopen
  exact ⟨opener, code, rest, rfl, .outside hline hbefore, hblock⟩

/-- A closed block leaves the same blocks open behind it. -/
theorem LeftOpen.block {opener closer : String} {code lines before : List String}
    (hopener : Opens language opener) (hcode : ∀ line ∈ code, IsCode language line)
    (hcloser : Closes language closer) (hopen : LeftOpen language lines before) :
    LeftOpen language (opener :: (code ++ closer :: lines))
      (opener :: (code ++ closer :: before)) := by
  obtain ⟨second, more, rest, rfl, hbefore, hblock⟩ := hopen
  refine ⟨second, more, rest, ?_, .block hopener hcode hcloser hbefore, hblock⟩
  simp only [List.cons_append, List.append_assoc]

/-- Lines begin with code up to the first marker of either kind. -/
private theorem exists_code (language : Language) (lines : List String) :
    ∃ code rest, lines = code ++ rest ∧ (∀ line ∈ code, IsCode language line) ∧
      ∀ marker ∈ rest.head?, ¬IsCode language marker := by
  induction lines with
  | nil => exact ⟨[], [], rfl, List.forall_mem_nil _, by rintro _ ⟨⟩⟩
  | cons line lines ih =>
    by_cases hline : IsCode language line
    · obtain ⟨code, rest, rfl, hcode, hrest⟩ := ih
      exact ⟨line :: code, rest, rfl, List.forall_mem_cons.mpr ⟨hline, hcode⟩, hrest⟩
    · refine ⟨[], line :: lines, rfl, List.forall_mem_nil _, ?_⟩
      rintro _ ⟨⟩
      exact hline

/-- Lines are settled, or a first block in them is left open. -/
theorem settled_or_leftOpen (language : Language) (lines : List String) :
    Settled language lines ∨ ∃ before, LeftOpen language lines before := by
  -- A closed block is skipped as a whole, so the induction is on the number of lines.
  induction hlength : lines.length using Nat.strongRecOn generalizing lines with
  | _ length ih =>
    subst hlength
    cases lines with
    | nil => exact .inl .nil
    | cons line lines =>
      by_cases hline : Opens language line
      · obtain ⟨code, rest, rfl, hcode, hrest⟩ := exists_code language lines
        cases rest with
        | nil => exact .inr ⟨[], line, code, [], rfl, .nil, hline, hcode, by rintro _ ⟨⟩⟩
        | cons marker rest =>
          by_cases hcloses : Closes language marker
          · have hshorter : rest.length < (line :: (code ++ marker :: rest)).length := by
              simp only [List.length_cons, List.length_append]
              omega
            rcases ih rest.length hshorter rest rfl with hsettled | ⟨before, hopen⟩
            · exact .inl (.block hline hcode hcloses hsettled)
            · exact .inr ⟨_, hopen.block hline hcode hcloses⟩
          · have hopens : Opens language marker := by
              by_contra hnot
              exact hrest marker rfl ⟨hnot, hcloses⟩
            refine .inr ⟨[], line, code, marker :: rest, rfl, .nil, hline, hcode, ?_⟩
            rintro _ ⟨⟩
            exact ⟨hopens, hcloses⟩
      · have hshorter : lines.length < (line :: lines).length := by
          rw [List.length_cons]
          omega
        rcases ih lines.length hshorter lines rfl with hsettled | ⟨before, hopen⟩
        · exact .inl (.outside hline hsettled)
        · exact .inr ⟨_, hopen.outside hline⟩

section Scanning

variable {file : String} {number : Nat} {block : Unclosed} {line : String} {rest : List String}

/-- A line that opens a block starts one behind it. -/
theorem scanFrom_opener (hline : Opens language line) :
    scanFrom file language number none (line :: rest) =
      scanFrom file language (number + 1) (some ⟨number + 1, []⟩) rest := by
  rw [scanFrom]
  exact if_pos hline

/-- Any other line outside of blocks is passed over. -/
theorem scanFrom_outside (hline : ¬Opens language line) :
    scanFrom file language number none (line :: rest) =
      scanFrom file language (number + 1) none rest := by
  rw [scanFrom]
  exact if_neg hline

/-- A line that closes a block makes it a snippet. -/
theorem scanFrom_closer (hline : Closes language line) :
    scanFrom file language number (some block) (line :: rest) =
      (block.close file :: ·) <$> scanFrom file language (number + 1) none rest := by
  rw [scanFrom]
  exact if_pos hline

/-- A block that is opened again is refused, unless the same line closes it. -/
theorem scanFrom_reopener (hopens : Opens language line) (hcloses : ¬Closes language line) :
    scanFrom file language number (some block) (line :: rest) =
      .error ⟨file, language, block.first⟩ := by
  rw [scanFrom]
  exact (if_neg hcloses).trans (if_pos hopens)

/-- Code in a block is kept until something else comes. -/
theorem scanFrom_code {code : List String} (hcode : ∀ line ∈ code, IsCode language line) :
    scanFrom file language number (some block) (code ++ rest) =
      scanFrom file language (number + code.length)
        (some ⟨block.first, code.reverse ++ block.seen⟩) rest := by
  induction code generalizing number block with
  | nil => rfl
  | cons line code ih =>
    obtain ⟨hopens, hcloses⟩ := hcode line List.mem_cons_self
    have hlater := fun other hother => hcode other (List.mem_cons_of_mem _ hother)
    have hline : scanFrom file language number (some block) (line :: (code ++ rest)) =
        scanFrom file language (number + 1) (some ⟨block.first, line :: block.seen⟩)
          (code ++ rest) := by
      rw [scanFrom]
      exact (if_neg hcloses).trans (if_neg hopens)
    have hnumber : number + 1 + code.length = number + (line :: code).length := by
      rw [List.length_cons]
      omega
    rw [List.cons_append, hline, ih hlater, hnumber, List.reverse_cons, List.append_assoc,
      List.singleton_append]

/-- Settled lines yield snippets, whatever follows them. -/
theorem Settled.exists_snippets {before : List String} (hbefore : Settled language before)
    (file : String) (number : Nat) :
    ∃ snippets, ∀ rest, scanFrom file language number none (before ++ rest) =
      (snippets ++ ·) <$> scanFrom file language (number + before.length) none rest := by
  induction hbefore generalizing number with
  | nil =>
    refine ⟨[], fun rest => ?_⟩
    exact (id_map (scanFrom file language number none rest)).symm
  | @outside line before hline _ ih =>
    obtain ⟨snippets, hsnippets⟩ := ih (number + 1)
    refine ⟨snippets, fun rest => ?_⟩
    have hnumber : number + 1 + before.length = number + (line :: before).length := by
      rw [List.length_cons]
      omega
    rw [List.cons_append, scanFrom_outside hline, hsnippets, hnumber]
  | @block opener closer code before hopener hcode hcloser _ ih =>
    obtain ⟨snippets, hsnippets⟩ := ih (number + 1 + code.length + 1)
    refine ⟨(Unclosed.close ⟨number + 1, code.reverse ++ []⟩ file) :: snippets, fun rest => ?_⟩
    have hnumber : number + 1 + code.length + 1 + before.length =
        number + (opener :: (code ++ closer :: before)).length := by
      simp only [List.length_cons, List.length_append]
      omega
    rw [List.cons_append, List.append_assoc, List.cons_append, scanFrom_opener hopener,
      scanFrom_code hcode, scanFrom_closer hcloser, hsnippets, hnumber]
    exact (comp_map _ _ _).symm

/-- The scanner refuses lines in which a block is left open, and names the first such block. -/
theorem LeftOpen.scanFrom {lines before : List String} (hopen : LeftOpen language lines before)
    (file : String) (number : Nat) :
    Block.scanFrom file language number none lines =
      .error ⟨file, language, number + before.length + 1⟩ := by
  obtain ⟨opener, code, rest, rfl, hbefore, hopener, hcode, hrest⟩ := hopen
  obtain ⟨snippets, hsnippets⟩ := hbefore.exists_snippets file number
  rw [hsnippets, scanFrom_opener hopener, scanFrom_code hcode]
  cases rest with
  | nil => rfl
  | cons second rest =>
    obtain ⟨hopens, hcloses⟩ := hrest second rfl
    rw [scanFrom_reopener hopens hcloses]
    rfl

end Scanning

/-- The scanner refuses exactly the texts in which a block is left open, and it names the first such
block by its language and its first line. -/
theorem scan_error_iff {text file : String} {block : Unterminated} :
    scan text file language = .error block ↔
      ∃ before, LeftOpen language ((Text.lines text.toList).map String.ofList) before ∧
        block = ⟨file, language, before.length + 2⟩ := by
  rw [scan]
  constructor
  · intro hscan
    rcases settled_or_leftOpen language ((Text.lines text.toList).map String.ofList) with
      hsettled | ⟨before, hopen⟩
    · obtain ⟨snippets, hsnippets⟩ := hsettled.exists_snippets file 1
      have hok := hsnippets []
      rw [List.append_nil, hscan] at hok
      cases hok
    · rw [hopen.scanFrom file 1] at hscan
      have hnumber : 1 + before.length + 1 = before.length + 2 := by omega
      exact ⟨before, hopen, by rw [← hnumber, ← Except.error.inj hscan]⟩
  · rintro ⟨before, hopen, rfl⟩
    have hnumber : 1 + before.length + 1 = before.length + 2 := by omega
    rw [hopen.scanFrom file 1, hnumber]

end ILGraft.Block
