import ILGraft.Fault
import ILGraft.Proofs.BlockGrammar
import ILGraft.SourceText

/-!
# Outcomes of a scan

Where lines do not divide into blocks, some opening marker stays open: another one follows it, or the
source ends, before it is closed. The first such marker is the one that the scanner reports. Nothing
else can go wrong, since a block has as many lines of code as its range has numbers; a scan that
looks the code up by its numbers and checks it against its range has the same outcome.
-/

namespace ILGraft.Block

variable {language : Language} {file : String}

/-- Behind a numbered line there comes an opening marker, or the end of the lines, before any closing
marker does. -/
def StaysOpen (language : Language) (numbered : List (String × Nat)) (number : Nat) : Prop :=
  ∃ stop, number < stop ∧
    ((∃ line, (line, stop) ∈ numbered ∧ Opens language line) ∨
      ∀ entry ∈ numbered, entry.2 < stop) ∧
    ∀ entry ∈ numbered, number < entry.2 → entry.2 ≤ stop → ¬Closes language entry.1

/-- The number of the first opening marker that stays open. -/
structure FirstOpen (language : Language) (numbered : List (String × Nat)) (number : Nat) :
    Prop where
  /-- The line with this number is an opening marker. -/
  opens : ∃ line, (line, number) ∈ numbered ∧ Opens language line
  /-- It stays open. -/
  stays : StaysOpen language numbered number
  /-- No opening marker in front of it stays open. -/
  first : ∀ entry ∈ numbered, Opens language entry.1 → entry.2 < number →
    ¬StaysOpen language numbered entry.2

section LeftOpen

variable {opener closer : String} {code rest before : List String} {number : Nat}

/-- Lines in front of a number have no part in whether it stays open. -/
theorem StaysOpen.of_append {front back : List (String × Nat)}
    (hfront : ∀ entry ∈ front, entry.2 ≤ number)
    (hstays : StaysOpen language (front ++ back) number) : StaysOpen language back number := by
  obtain ⟨stop, hlt, hstop, hnone⟩ := hstays
  refine ⟨stop, hlt, ?_, fun entry hentry => hnone entry (List.mem_append_right _ hentry)⟩
  rcases hstop with ⟨line, hline, hopens⟩ | hend
  · refine .inl ⟨line, ?_, hopens⟩
    rcases List.mem_append.mp hline with hmem | hmem
    · have hle := hfront _ hmem
      dsimp only at hle
      omega
    · exact hmem
  · exact .inr fun entry hentry => hend entry (List.mem_append_right _ hentry)

/-- A closed block does not stay open. -/
theorem not_staysOpen_of_block (rest : List String) (number : Nat)
    (hcode : ∀ line ∈ code, IsCode language line) (hcloser : Closes language closer) :
    ¬StaysOpen language ((opener :: (code ++ closer :: rest)).zipIdx number) number := by
  rintro ⟨stop, hlt, hstop, hnone⟩
  have hmem : (closer, number + 1 + code.length) ∈
      (opener :: (code ++ closer :: rest)).zipIdx number := by
    rw [zipIdx_block]
    simp
  have hbefore : stop < number + 1 + code.length := by
    by_contra hle
    refine hnone _ hmem ?_ (Nat.le_of_not_lt hle) hcloser
    dsimp only
    omega
  rcases hstop with ⟨line, hline, hopens⟩ | hend
  · -- Up to the closing marker there is only code.
    rw [zipIdx_block] at hline
    rcases List.mem_cons.mp hline with heq | hline
    · cases heq
      omega
    rcases List.mem_append.mp hline with hmem | hmem
    · exact (hcode _ (List.fst_mem_of_mem_zipIdx hmem)).1 hopens
    rcases List.mem_cons.mp hmem with heq | hmem
    · cases heq
      omega
    · have hle := List.le_snd_of_mem_zipIdx hmem
      dsimp only at hle
      omega
  · have := hend _ hmem
    dsimp only at this
    omega

/-- With equal markers, an opening marker stays open only if no other one follows. -/
theorem not_staysOpen_of_equal {numbered : List (String × Nat)}
    (hequal : ∀ line, Opens language line → Closes language line)
    (hlater : ∃ entry ∈ numbered, number < entry.2 ∧ Opens language entry.1) :
    ¬StaysOpen language numbered number := by
  rintro ⟨stop, hlt, ⟨line, hline, hopens⟩ | hend, hnone⟩
  · exact hnone _ hline hlt (Nat.le_refl _) (hequal line hopens)
  · obtain ⟨entry, hentry, hbehind, hopens⟩ := hlater
    exact hnone entry hentry hbehind (Nat.le_of_lt (hend entry hentry)) (hequal _ hopens)

/-- No opening marker of settled lines stays open in front of another one. -/
theorem Settled.not_staysOpen (hbefore : Settled language before) (hopener : Opens language opener)
    {entry : String × Nat} (hentry : entry ∈ before.zipIdx number)
    (hopens : Opens language entry.1) :
    ¬StaysOpen language ((before ++ opener :: rest).zipIdx number) entry.2 := by
  induction hbefore generalizing number with
  | nil => cases hentry
  | @outside line before hline _ ih =>
    rcases List.mem_cons.mp hentry with rfl | hmem
    · exact absurd hopens hline
    · intro hstays
      have hfront : ∀ other ∈ [(line, number)], other.2 ≤ entry.2 := by
        intro other hother
        rw [List.mem_singleton.mp hother]
        exact Nat.le_of_lt (List.le_snd_of_mem_zipIdx hmem)
      exact ih hmem (StaysOpen.of_append hfront hstays)
  | @block first closer code before hfirst hcode hcloser _ ih =>
    rw [List.cons_append, List.append_assoc, List.cons_append]
    rw [zipIdx_block] at hentry
    rcases List.mem_cons.mp hentry with rfl | hentry
    · exact not_staysOpen_of_block _ _ hcode hcloser
    rcases List.mem_append.mp hentry with hmem | hmem
    · exact absurd hopens (hcode _ (List.fst_mem_of_mem_zipIdx hmem)).1
    rcases List.mem_cons.mp hmem with rfl | hmem
    · -- A closing marker that opens as well is any marker at all.
      have hequal (line : String) (hline : Opens language line) : Closes language line :=
        hline.trans (hopens.symm.trans hcloser)
      refine not_staysOpen_of_equal hequal
        ⟨(opener, number + code.length + 2 + before.length), ?_, ?_, hopener⟩
      · rw [zipIdx_block, List.zipIdx_append]
        simp
      · dsimp only
        omega
    · intro hstays
      rw [zipIdx_block_append] at hstays
      refine ih hmem (StaysOpen.of_append (fun other hother => ?_) hstays)
      have hlt := lt_of_mem_zipIdx_block hother
      have hle := List.le_snd_of_mem_zipIdx hmem
      omega

/-- The first block that is left open is opened by the first marker that stays open. -/
theorem LeftOpen.firstOpen {lines : List String} (hopen : LeftOpen language lines before)
    (number : Nat) : FirstOpen language (lines.zipIdx number) (number + before.length) := by
  obtain ⟨opener, code, rest, rfl, hbefore, hopener, hcode, hrest⟩ := hopen
  have hnumbered : (before ++ opener :: (code ++ rest)).zipIdx number =
      before.zipIdx number ++ (opener, number + before.length) ::
        (code.zipIdx (number + before.length + 1) ++
          rest.zipIdx (number + before.length + 1 + code.length)) := by
    rw [List.zipIdx_append, List.zipIdx_cons, List.zipIdx_append]
  refine ⟨⟨opener, ?_, hopener⟩, ?_, fun entry hentry hopens hlt => ?_⟩
  · rw [hnumbered]
    simp
  · refine ⟨number + before.length + 1 + code.length, by omega, ?_, fun entry hentry hlo hhi => ?_⟩
    · cases rest with
      | nil =>
        refine .inr fun entry hentry => ?_
        have hlt := List.snd_lt_add_of_mem_zipIdx hentry
        rw [List.append_nil, List.length_append, List.length_cons] at hlt
        omega
      | cons second rest =>
        refine .inl ⟨second, ?_, (hrest second rfl).1⟩
        rw [hnumbered, List.zipIdx_cons]
        simp
    · rw [hnumbered] at hentry
      rcases List.mem_append.mp hentry with hmem | hmem
      · have := List.snd_lt_add_of_mem_zipIdx hmem
        omega
      rcases List.mem_cons.mp hmem with rfl | hmem
      · exact absurd hlo (Nat.lt_irrefl _)
      rcases List.mem_append.mp hmem with hmem | hmem
      · exact (hcode _ (List.fst_mem_of_mem_zipIdx hmem)).2
      · cases rest with
        | nil => cases hmem
        | cons second rest =>
          rcases List.mem_cons.mp hmem with rfl | hmem
          · exact (hrest second rfl).2
          · have := List.le_snd_of_mem_zipIdx hmem
            omega
  · refine hbefore.not_staysOpen hopener ?_ hopens
    rw [List.zipIdx_append] at hentry
    rcases List.mem_append.mp hentry with hmem | hmem
    · exact hmem
    · have := List.le_snd_of_mem_zipIdx hmem
      omega

end LeftOpen

/-- A scan that goes by line numbers. Of an open block it keeps the first line alone, or zero outside
of blocks. When the block is closed its code is looked up by the numbers of its lines, and becomes a
snippet if it covers them. -/
def scanByNumber (source : SourceText) (file : String) (language : Language) :
    Nat → Nat → List String → Except Fault (List Snippet)
  | _, first, [] =>
    if first = 0 then .ok [] else .error (.unterminated ⟨file, language, first⟩)
  | number, first, line :: rest =>
    if first = 0 then
      if markOf line = Text.lower language.opening.toList then
        scanByNumber source file language (number + 1) (number + 1) rest
      else scanByNumber source file language (number + 1) 0 rest
    else if markOf line = Text.lower language.closing.toList then do
      let snippet ← (Snippet.ofRange file first ((number : Int) - 1)
        (source.linesBetween first ((number : Int) - 1))).mapError .malformed
      let more ← scanByNumber source file language (number + 1) 0 rest
      return snippet :: more
    else if markOf line = Text.lower language.opening.toList then
      .error (.unterminated ⟨file, language, first⟩)
    else scanByNumber source file language (number + 1) first rest

/-- The lines between two numbers are those that have these numbers. -/
theorem linesBetween_append {source : SourceText} {front code back : List String}
    (hlines : source.lines = front ++ (code ++ back)) :
    source.linesBetween ((front.length + 1 : Nat) : Int) ((front.length + code.length : Nat) : Int)
      = code := by
  apply List.ext_getElem
  · simp only [SourceText.linesBetween, List.length_map, List.length_range]
    omega
  · intro index _ hindex
    have hnumber : (((front.length + 1 : Nat) : Int) + (index : Int) - 1).toNat =
        front.length + index := by omega
    have hpositive : (1 : Int) ≤ ((front.length + 1 : Nat) : Int) + (index : Int) := by omega
    simp only [SourceText.linesBetween, List.getElem_map, List.getElem_range, SourceText.lineAt,
      if_pos hpositive, hnumber]
    rw [hlines, List.getD_eq_getElem?_getD, List.getElem?_append_right (Nat.le_add_right _ _),
      Nat.add_sub_cancel_left, List.getElem?_append_left hindex, List.getElem?_eq_getElem hindex,
      Option.getD_some]

/-- The code of an open block covers the range of its lines. -/
theorem ofRange_close {block : Unclosed} {first : Nat} {last : Int} {code : List String}
    (hfirst : block.first = first) (hlast : last = first + code.length - 1)
    (hcode : code = block.seen.reverse) :
    Snippet.ofRange file first last code = .ok (block.close file) := by
  subst hfirst hlast hcode
  have hcovers : (block.seen.reverse.length : Int) =
      (block.first + block.seen.reverse.length - 1 : Int) - block.first + 1 := by omega
  rw [Snippet.ofRange, dif_pos hcovers]
  simp only [Unclosed.close, List.length_reverse]

/-- What the two scans know of an open block: where it begins in the lines seen so far. -/
def Agrees (seen : List String) (first : Nat) : Option Unclosed → Prop
  | none => first = 0
  | some block => ∃ front, seen = front ++ block.seen.reverse ∧
      first = front.length + 1 ∧ block.first = first

/-- Both scans have the same outcome, and so no snippet is ever a misfit. -/
theorem scanByNumber_eq {source : SourceText} {seen lines : List String} {first : Nat}
    {block? : Option Unclosed} (hlines : source.lines = seen ++ lines)
    (hagrees : Agrees seen first block?) :
    scanByNumber source file language (seen.length + 1) first lines =
      (scanFrom file language (seen.length + 1) block? lines).mapError .unterminated := by
  induction lines generalizing seen first block? with
  | nil =>
    cases block? with
    | none => rw [hagrees]; rfl
    | some block =>
      obtain ⟨front, -, rfl, hfirst⟩ := hagrees
      rw [scanFrom, hfirst]
      rfl
  | cons line rest ih =>
    have hnext : source.lines = (seen ++ [line]) ++ rest := by
      rw [hlines, List.append_assoc, List.singleton_append]
    have hlength : seen.length + 1 + 1 = (seen ++ [line]).length + 1 := by
      rw [List.length_append, List.length_singleton]
    cases block? with
    | none =>
      obtain rfl : first = 0 := hagrees
      rw [scanByNumber, if_pos rfl, scanFrom]
      split
      · rw [hlength]
        exact ih hnext ⟨seen ++ [line], by rw [List.reverse_nil, List.append_nil], rfl, rfl⟩
      · rw [hlength]
        exact ih hnext rfl
    | some block =>
      obtain ⟨front, rfl, rfl, hfirst⟩ := hagrees
      rw [scanByNumber, if_neg (Nat.succ_ne_zero _), scanFrom]
      split
      · have hlast : ((front ++ block.seen.reverse).length + 1 : Nat) - (1 : Int) =
            ((front.length + block.seen.reverse.length : Nat) : Int) := by
          rw [List.length_append]
          omega
        have hcode := linesBetween_append (hlines.trans (List.append_assoc _ _ _))
        have hclosed : Agrees (front ++ block.seen.reverse ++ [line]) 0 none := rfl
        rw [hlast, hcode, ofRange_close hfirst (by omega) rfl, hlength, ih hnext hclosed]
        cases scanFrom file language ((front ++ block.seen.reverse ++ [line]).length + 1) none rest
          <;> rfl
      · split
        · rw [hfirst]
          rfl
        · rw [hlength]
          refine ih hnext ⟨front, ?_, rfl, hfirst⟩
          rw [List.reverse_cons, List.append_assoc]

/-- The lines of a text with their numbers, counted from one. -/
def numberedLines (text : String) : List (String × Nat) :=
  ((Text.lines text.toList).map String.ofList).zipIdx 1

/-- A scan finds the blocks of a text, of which there is at most one list. Where there is none, it
reports the first opening marker that stays open, by the number of its line. Nothing else can go
wrong: with its code looked up by numbers, no snippet is a misfit. -/
theorem scan_outcomes (text file : String) (language : Language) :
    (∀ snippets, scan text file language = .ok snippets ↔
      Blocks language file (numberedLines text) snippets) ∧
    (∀ one other, Blocks language file (numberedLines text) one →
      Blocks language file (numberedLines text) other → one = other) ∧
    ((¬∃ snippets, Blocks language file (numberedLines text) snippets) →
      ∃ number block, FirstOpen language (numberedLines text) number ∧
        scan text file language = .error block ∧ (Fault.unterminated block).report.file = file ∧
        (Fault.unterminated block).report.first = number ∧
        (Fault.unterminated block).report.last = number) ∧
    scanByNumber (SourceText.ofContent text) file language 1 0 (SourceText.ofContent text).lines =
      (scan text file language).mapError .unterminated ∧
    ∀ misfit, scanByNumber (SourceText.ofContent text) file language 1 0
      (SourceText.ofContent text).lines ≠ .error (.malformed misfit) := by
  have hscan (snippets : List Snippet) : scan text file language = .ok snippets ↔
      Blocks language file (numberedLines text) snippets := scanFrom_eq_ok_iff
  have hagrees : Agrees [] 0 none := rfl
  have hnumbered : scanByNumber (SourceText.ofContent text) file language 1 0
      (SourceText.ofContent text).lines = (scan text file language).mapError .unterminated :=
    scanByNumber_eq rfl hagrees
  refine ⟨hscan, fun one other hone hother => ?_, fun hnone => ?_, hnumbered, fun misfit => ?_⟩
  · rw [← hscan] at hone hother
    exact Except.ok.inj (hone.symm.trans hother)
  · cases houtcome : scan text file language with
    | ok snippets => exact absurd ⟨snippets, (hscan snippets).mp houtcome⟩ hnone
    | error block =>
      obtain ⟨before, hopen, rfl⟩ := scan_error_iff.mp houtcome
      refine ⟨1 + before.length, _, hopen.firstOpen 1, rfl, rfl, ?_, ?_⟩ <;>
        simp only [Fault.report] <;> omega
  · rw [hnumbered]
    cases scan text file language with
    | ok snippets => exact nofun
    | error block => exact fun heq => nomatch Except.error.inj heq

/-- A language whose blocks are opened and closed by the same marker. -/
def ruled : Language :=
  ⟨"Ruled", "---", "---"⟩

/-- An odd number of such markers leaves the last one open. -/
theorem scan_outcomes_oddMarkers :
    (¬∃ snippets, Blocks ruled "A.r" (numberedLines "---\nnop\n---\nx\n ---\n") snippets) ∧
      FirstOpen ruled (numberedLines "---\nnop\n---\nx\n ---\n") 5 := by
  obtain ⟨hscan, -, hfails, -⟩ := scan_outcomes "---\nnop\n---\nx\n ---\n" "A.r" ruled
  have herror : scan "---\nnop\n---\nx\n ---\n" "A.r" ruled = .error ⟨"A.r", ruled, 6⟩ := rfl
  have hnone : ¬∃ snippets,
      Blocks ruled "A.r" (numberedLines "---\nnop\n---\nx\n ---\n") snippets := by
    rintro ⟨snippets, hblocks⟩
    rw [← hscan, herror] at hblocks
    cases hblocks
  obtain ⟨number, block, hopen, hblock, -, hfirst, -⟩ := hfails hnone
  rw [herror] at hblock
  obtain rfl := Except.error.inj hblock
  obtain rfl : 5 = number := Int.ofNat_inj.mp hfirst
  exact ⟨hnone, hopen⟩

end ILGraft.Block
