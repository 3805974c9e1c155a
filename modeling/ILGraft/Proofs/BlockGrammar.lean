import ILGraft.Proofs.OpenBlocks
import Mathlib.Data.List.Chain

/-!
# The grammar of code blocks

The blocks of a source are described here by the numbers of its lines alone, without any scan: which
lines are markers, what lies between them, and that no opening marker stands outside of blocks. The
scanner succeeds exactly with the snippets that fit this description, so there is at most one list
of them.
-/

namespace ILGraft.Block

variable {language : Language} {file : String}

/-- The lines with numbers in a range, both ends included. -/
def linesIn (numbered : List (String × Nat)) (first last : Int) : List String :=
  (numbered.filter fun entry => first ≤ entry.2 ∧ (entry.2 : Int) ≤ last).map Prod.fst

/-- A snippet that is a block of numbered lines. -/
structure IsBlock (language : Language) (numbered : List (String × Nat)) (snippet : Snippet) :
    Prop where
  /-- The line in front of the snippet opens a block. -/
  opened : ∃ entry ∈ numbered, (entry.2 : Int) = snippet.first - 1 ∧ Opens language entry.1
  /-- The line behind the snippet closes a block. -/
  closed : ∃ entry ∈ numbered, (entry.2 : Int) = snippet.last + 1 ∧ Closes language entry.1
  /-- No line of the snippet is a marker. -/
  code : ∀ entry ∈ numbered, snippet.first ≤ entry.2 → (entry.2 : Int) ≤ snippet.last →
    IsCode language entry.1
  /-- The code of the snippet is that of its lines. -/
  raw : snippet.raw = linesIn numbered snippet.first snippet.last

/-- Snippets that are the blocks of the numbered lines of a file. -/
structure Blocks (language : Language) (file : String) (numbered : List (String × Nat))
    (snippets : List Snippet) : Prop where
  /-- The snippets belong to the file. -/
  file : ∀ snippet ∈ snippets, snippet.file = file
  /-- Every snippet is a block. -/
  block : ∀ snippet ∈ snippets, IsBlock language numbered snippet
  /-- A block is closed before the next one is opened. -/
  ordered : snippets.IsChain fun one next => one.last + 1 < next.first - 1
  /-- An opening marker is a line of some block, its two markers included. -/
  outside : ∀ entry ∈ numbered, Opens language entry.1 →
    ∃ snippet ∈ snippets, snippet.first - 1 ≤ entry.2 ∧ (entry.2 : Int) ≤ snippet.last + 1

section Ranges

variable {front back numbered : List (String × Nat)} {first last : Int} {snippet : Snippet}

/-- The lines of a front come first. -/
theorem linesIn_append (front back : List (String × Nat)) (first last : Int) :
    linesIn (front ++ back) first last = linesIn front first last ++ linesIn back first last := by
  rw [linesIn, List.filter_append, List.map_append, linesIn, linesIn]

/-- No line is found in a range that all lines lie outside of. -/
theorem linesIn_eq_nil
    (hout : ∀ entry ∈ numbered, (entry.2 : Int) < first ∨ last < (entry.2 : Int)) :
    linesIn numbered first last = [] := by
  rw [linesIn, List.map_eq_nil_iff, List.filter_eq_nil_iff]
  intro entry hentry
  have := hout entry hentry
  rw [decide_eq_true_eq]
  omega

/-- All lines are found in the range of their numbers. -/
theorem linesIn_zipIdx (lines : List String) (number : Nat)
    (hfirst : first = number) (hlast : last = number + lines.length - 1) :
    linesIn (lines.zipIdx number) first last = lines := by
  have hall : (lines.zipIdx number).filter
      (fun entry => first ≤ entry.2 ∧ (entry.2 : Int) ≤ last) = lines.zipIdx number := by
    rw [List.filter_eq_self]
    intro entry hentry
    have hlower := List.le_snd_of_mem_zipIdx hentry
    have hupper := List.snd_lt_add_of_mem_zipIdx hentry
    rw [decide_eq_true_eq]
    omega
  rw [linesIn, hall, List.zipIdx_map_fst]

/-- A snippet is not longer than the gap between its markers. -/
theorem first_le_last_add_one (snippet : Snippet) : snippet.first ≤ snippet.last + 1 := by
  have hcovers := snippet.covers
  omega

/-- Lines that end before a snippet is opened have no part in it. -/
theorem isBlock_append_iff (hfront : ∀ entry ∈ front, (entry.2 : Int) < snippet.first - 1) :
    IsBlock language (front ++ back) snippet ↔ IsBlock language back snippet := by
  have hle := first_le_last_add_one snippet
  have hraw : linesIn (front ++ back) snippet.first snippet.last =
      linesIn back snippet.first snippet.last := by
    rw [linesIn_append, linesIn_eq_nil, List.nil_append]
    intro entry hentry
    have := hfront entry hentry
    omega
  have hbehind {entry : String × Nat} (hentry : entry ∈ front ++ back)
      (hnumber : snippet.first - 1 ≤ (entry.2 : Int)) : entry ∈ back := by
    rcases List.mem_append.mp hentry with hmem | hmem
    · have := hfront entry hmem
      omega
    · exact hmem
  constructor
  · rintro ⟨⟨opener, hopener, hfirst, hopens⟩, ⟨closer, hcloser, hlast, hcloses⟩, hcode, hlines⟩
    refine ⟨⟨opener, hbehind hopener (by omega), hfirst, hopens⟩,
      ⟨closer, hbehind hcloser (by omega), hlast, hcloses⟩, fun entry hentry => ?_, ?_⟩
    · exact hcode entry (List.mem_append_right _ hentry)
    · rw [hlines, hraw]
  · rintro ⟨⟨opener, hopener, hfirst, hopens⟩, ⟨closer, hcloser, hlast, hcloses⟩, hcode, hlines⟩
    refine ⟨⟨opener, List.mem_append_right _ hopener, hfirst, hopens⟩,
      ⟨closer, List.mem_append_right _ hcloser, hlast, hcloses⟩, fun entry hentry hlo hhi => ?_, ?_⟩
    · exact hcode entry (hbehind hentry (by omega)) hlo hhi
    · rw [hlines, hraw]

end Ranges

/-- The snippet of code behind an opening marker with a number. -/
def codeBlock (file : String) (number : Nat) (code : List String) : Snippet :=
  Unclosed.close ⟨number + 1, code.reverse⟩ file

theorem codeBlock_first (file : String) (number : Nat) (code : List String) :
    (codeBlock file number code).first = number + 1 := rfl

theorem codeBlock_last (file : String) (number : Nat) (code : List String) :
    (codeBlock file number code).last = number + code.length := by
  simp only [codeBlock, Unclosed.close, List.length_reverse]
  omega

theorem codeBlock_raw (file : String) (number : Nat) (code : List String) :
    (codeBlock file number code).raw = code :=
  List.reverse_reverse code

/-- A snippet is known by its file, its first line and its code. -/
theorem eq_codeBlock {snippet : Snippet} {number : Nat} {code : List String}
    (hfile : snippet.file = file) (hfirst : snippet.first = number + 1)
    (hraw : snippet.raw = code) : snippet = codeBlock file number code := by
  have hcovers := snippet.covers
  have hlast : snippet.last = (codeBlock file number code).last := by
    rw [codeBlock_last, ← hraw]
    omega
  rw [← codeBlock_raw file number code] at hraw
  rw [← codeBlock_first file number code] at hfirst
  cases snippet
  cases hfile
  cases hfirst
  cases hlast
  cases hraw
  rfl

section Reading

variable {line opener closer : String} {code rest : List String} {number : Nat}
  {snippets more : List Snippet}

/-- A first line that opens no block has no part in any. -/
theorem blocks_outside_iff (hline : ¬Opens language line) :
    Blocks language file ((line :: rest).zipIdx number) snippets ↔
      Blocks language file (rest.zipIdx (number + 1)) snippets := by
  rw [List.zipIdx_cons]
  have hfront {snippet : Snippet} (hfirst : (number : Int) + 1 ≤ snippet.first - 1) :
      ∀ entry ∈ [(line, number)], (entry.2 : Int) < snippet.first - 1 := by
    intro entry hentry
    rw [List.mem_singleton.mp hentry]
    omega
  constructor
  · rintro ⟨hfile, hblock, hordered, houtside⟩
    refine ⟨hfile, fun snippet hmem => ?_, hordered, fun entry hentry => ?_⟩
    · obtain ⟨entry, hentry, hnumber, hopens⟩ := (hblock snippet hmem).opened
      rcases List.mem_cons.mp hentry with rfl | hrest
      · exact absurd hopens hline
      · have hle := List.le_snd_of_mem_zipIdx hrest
        exact (isBlock_append_iff (hfront (by omega))).mp (hblock snippet hmem)
    · exact houtside entry (List.mem_cons_of_mem _ hentry)
  · rintro ⟨hfile, hblock, hordered, houtside⟩
    refine ⟨hfile, fun snippet hmem => ?_, hordered, fun entry hentry hopens => ?_⟩
    · obtain ⟨entry, hentry, hnumber, -⟩ := (hblock snippet hmem).opened
      have hle := List.le_snd_of_mem_zipIdx hentry
      rw [← List.singleton_append, isBlock_append_iff (hfront (by omega))]
      exact hblock snippet hmem
    · rcases List.mem_cons.mp hentry with rfl | hrest
      · exact absurd hopens hline
      · exact houtside entry hrest hopens

/-- A block and what follows it, with their numbers. -/
theorem zipIdx_block (opener closer : String) (code rest : List String) (number : Nat) :
    (opener :: (code ++ closer :: rest)).zipIdx number =
      (opener, number) :: (code.zipIdx (number + 1) ++
        (closer, number + 1 + code.length) :: rest.zipIdx (number + code.length + 2)) := by
  have hnumber : number + 1 + code.length + 1 = number + code.length + 2 := by omega
  rw [List.zipIdx_cons, List.zipIdx_append, List.zipIdx_cons, hnumber]

/-- A block, its markers included, and what follows it, with their numbers. -/
theorem zipIdx_block_append (opener closer : String) (code rest : List String) (number : Nat) :
    (opener :: (code ++ closer :: rest)).zipIdx number =
      (opener :: (code ++ [closer])).zipIdx number ++
        rest.zipIdx (number + code.length + 2) := by
  rw [zipIdx_block, zipIdx_block, List.zipIdx_nil, List.cons_append, List.append_assoc,
    List.singleton_append]

/-- The numbers of a block and its markers. -/
theorem lt_of_mem_zipIdx_block {opener closer : String} {code : List String} {number : Nat}
    {entry : String × Nat} (hentry : entry ∈ (opener :: (code ++ [closer])).zipIdx number) :
    entry.2 < number + code.length + 2 := by
  have hlt := List.snd_lt_add_of_mem_zipIdx hentry
  rw [List.length_cons, List.length_append, List.length_singleton] at hlt
  omega

/-- Lines from the end of a block on have numbers above those of its code. -/
theorem last_codeBlock_lt {entry : String × Nat}
    (hentry : entry ∈ (closer, number + 1 + code.length) ::
      rest.zipIdx (number + code.length + 2)) :
    (codeBlock file number code).last < (entry.2 : Int) := by
  rw [codeBlock_last]
  rcases List.mem_cons.mp hentry with rfl | hrest
  · dsimp only
    omega
  · have := List.le_snd_of_mem_zipIdx hrest
    omega

/-- The lines in the range of a block are its code. -/
theorem linesIn_codeBlock (file opener closer : String) (code rest : List String) (number : Nat) :
    linesIn ((opener :: (code ++ closer :: rest)).zipIdx number)
      (codeBlock file number code).first (codeBlock file number code).last = code := by
  have hopener : linesIn [(opener, number)] (codeBlock file number code).first
      (codeBlock file number code).last = [] := by
    apply linesIn_eq_nil
    intro entry hentry
    rw [List.mem_singleton.mp hentry, codeBlock_first]
    dsimp only
    omega
  have hrest : linesIn ((closer, number + 1 + code.length) ::
      rest.zipIdx (number + code.length + 2)) (codeBlock file number code).first
      (codeBlock file number code).last = [] :=
    linesIn_eq_nil fun entry hentry => .inr (last_codeBlock_lt hentry)
  rw [zipIdx_block, ← List.singleton_append, linesIn_append, linesIn_append, hopener, hrest,
    linesIn_zipIdx, List.nil_append, List.append_nil]
  · rw [codeBlock_first]
    omega
  · rw [codeBlock_last]
    omega

/-- The code between two markers is a block. -/
theorem isBlock_codeBlock (file : String) (rest : List String) (number : Nat)
    (hopener : Opens language opener) (hcode : ∀ line ∈ code, IsCode language line)
    (hcloser : Closes language closer) :
    IsBlock language ((opener :: (code ++ closer :: rest)).zipIdx number)
      (codeBlock file number code) := by
  have hlines := linesIn_codeBlock file opener closer code rest number
  rw [zipIdx_block] at hlines ⊢
  refine ⟨⟨(opener, number), List.mem_cons_self, ?_, hopener⟩,
    ⟨(closer, number + 1 + code.length), by simp, ?_, hcloser⟩, fun entry hentry hlo hhi => ?_, ?_⟩
  · rw [codeBlock_first]
    omega
  · rw [codeBlock_last]
    dsimp only
    omega
  · rcases List.mem_cons.mp hentry with rfl | hentry
    · rw [codeBlock_first] at hlo
      dsimp only at hlo
      omega
    rcases List.mem_append.mp hentry with hmem | hmem
    · exact hcode _ (List.fst_mem_of_mem_zipIdx hmem)
    · have hlt : (codeBlock file number code).last < (entry.2 : Int) := last_codeBlock_lt hmem
      omega
  · rw [hlines, codeBlock_raw]

/-- Lines up to the end of a block have no part in snippets behind it. -/
theorem isBlock_behind_iff {snippet : Snippet}
    (hbehind : (number : Int) + code.length + 1 < snippet.first - 1) :
    IsBlock language ((opener :: (code ++ closer :: rest)).zipIdx number) snippet ↔
      IsBlock language (rest.zipIdx (number + code.length + 2)) snippet := by
  rw [zipIdx_block_append]
  apply isBlock_append_iff
  intro entry hentry
  have hlt := lt_of_mem_zipIdx_block hentry
  omega

/-- A block comes before the blocks of the lines behind it. -/
theorem Blocks.block_cons (hopener : Opens language opener)
    (hcode : ∀ line ∈ code, IsCode language line) (hcloser : Closes language closer)
    (hrest : Blocks language file (rest.zipIdx (number + code.length + 2)) more) :
    Blocks language file ((opener :: (code ++ closer :: rest)).zipIdx number)
      (codeBlock file number code :: more) := by
  have hbehind {snippet : Snippet} (hmem : snippet ∈ more) :
      (number : Int) + code.length + 1 < snippet.first - 1 := by
    obtain ⟨entry, hentry, hnumber, -⟩ := (hrest.block snippet hmem).opened
    have := List.le_snd_of_mem_zipIdx hentry
    omega
  refine ⟨?_, ?_, ?_, fun entry hentry hopens => ?_⟩
  · exact List.forall_mem_cons.mpr ⟨rfl, hrest.file⟩
  · exact List.forall_mem_cons.mpr ⟨isBlock_codeBlock file rest number hopener hcode hcloser,
      fun snippet hmem => (isBlock_behind_iff (hbehind hmem)).mpr (hrest.block snippet hmem)⟩
  · refine List.isChain_cons.mpr ⟨fun next hnext => ?_, hrest.ordered⟩
    have := hbehind (List.mem_of_mem_head? hnext)
    rw [codeBlock_last]
    omega
  · have hle := List.le_snd_of_mem_zipIdx hentry
    by_cases hlast : entry.2 ≤ number + 1 + code.length
    · refine ⟨_, List.mem_cons_self, ?_, ?_⟩
      · rw [codeBlock_first]
        omega
      · rw [codeBlock_last]
        omega
    · rw [zipIdx_block] at hentry
      have hmem : entry ∈ rest.zipIdx (number + code.length + 2) := by
        rcases List.mem_cons.mp hentry with rfl | hentry
        · dsimp only at hlast
          omega
        rcases List.mem_append.mp hentry with hmem | hmem
        · have := List.snd_lt_add_of_mem_zipIdx hmem
          omega
        rcases List.mem_cons.mp hmem with rfl | hmem
        · exact absurd (Nat.le_refl _) hlast
        · exact hmem
      obtain ⟨snippet, hsnippet, hcovers⟩ := hrest.outside entry hmem hopens
      exact ⟨snippet, List.mem_cons_of_mem _ hsnippet, hcovers⟩

/-- Blocks are in the order of their lines. -/
theorem Blocks.lt_of_mem {numbered : List (String × Nat)} {head snippet : Snippet}
    (hblocks : Blocks language file numbered (head :: more)) (hmem : snippet ∈ more) :
    head.last + 1 < snippet.first - 1 := by
  have htransitive : Trans (fun one next : Snippet => one.last + 1 < next.first - 1)
      (fun one next : Snippet => one.last + 1 < next.first - 1)
      (fun one next : Snippet => one.last + 1 < next.first - 1) :=
    ⟨fun {one middle next} hone hnext => by
      have hle := first_le_last_add_one middle
      omega⟩
  exact (List.pairwise_cons.mp hblocks.ordered.pairwise).1 snippet hmem

/-- A line that is numbered splits the lines. -/
theorem exists_split_of_mem_zipIdx {lines : List String} {entry : String × Nat}
    (hentry : entry ∈ lines.zipIdx number) :
    ∃ front back, lines = front ++ entry.1 :: back ∧ entry.2 = number + front.length := by
  obtain ⟨hle, hget⟩ := List.mk_mem_zipIdx_iff_le_and_getElem?_sub.mp hentry
  obtain ⟨hlt, hget⟩ := List.getElem?_eq_some_iff.mp hget
  refine ⟨lines.take (entry.2 - number), lines.drop (entry.2 - number + 1), ?_, ?_⟩
  · rw [← hget, List.getElem_cons_drop, List.take_append_drop]
  · rw [List.length_take]
    omega

/-- A line that splits the lines is numbered by what stands in front of it. -/
theorem mem_zipIdx_of_split {lines front back : List String} {line : String}
    (hlines : lines = front ++ line :: back) (number : Nat) :
    (line, number + front.length) ∈ lines.zipIdx number := by
  rw [hlines, List.zipIdx_append, List.zipIdx_cons]
  exact List.mem_append_right _ List.mem_cons_self

/-- A block that is opened by the first of some lines is closed by another one, with nothing but its
code between them. -/
theorem IsBlock.exists_code {snippet : Snippet} (hline : Opens language line)
    (hblock : IsBlock language ((line :: rest).zipIdx number) snippet)
    (hfirst : snippet.first = number + 1) (hfile : snippet.file = file) :
    ∃ code closer back, rest = code ++ closer :: back ∧ (∀ line ∈ code, IsCode language line) ∧
      Closes language closer ∧ snippet = codeBlock file number code := by
  have hle := first_le_last_add_one snippet
  obtain ⟨⟨closer, last⟩, hentry, hlast, hcloser⟩ := hblock.closed
  dsimp only at hlast
  have hbehind : (closer, last) ∈ rest.zipIdx (number + 1) := by
    rcases List.mem_cons.mp hentry with heq | hrest
    · cases heq
      omega
    · exact hrest
  obtain ⟨code, back, rfl, hlength⟩ := exists_split_of_mem_zipIdx hbehind
  dsimp only at hlength
  have hcode : ∀ line ∈ code, IsCode language line := by
    intro other hother
    obtain ⟨index, hindex, rfl⟩ := List.getElem_of_mem hother
    have hnumbered : (code[index], number + 1 + index) ∈
        (line :: (code ++ closer :: back)).zipIdx number := by
      rw [zipIdx_block]
      refine List.mem_cons_of_mem _ (List.mem_append_left _ ?_)
      rw [List.mk_mem_zipIdx_iff_le_and_getElem?_sub]
      exact ⟨Nat.le_add_right _ _, by rw [Nat.add_sub_cancel_left, List.getElem?_eq_getElem]⟩
    apply hblock.code _ hnumbered
    · dsimp only
      omega
    · dsimp only
      omega
  have hsame : snippet.last = (codeBlock file number code).last := by
    rw [codeBlock_last]
    omega
  have hraw : snippet.raw = code := by
    rw [hblock.raw, hfirst, hsame, ← codeBlock_first file number code,
      ← (isBlock_codeBlock file back number hline hcode hcloser).raw, codeBlock_raw]
  exact ⟨code, closer, back, rfl, hcode, hcloser, eq_codeBlock hfile hfirst hraw⟩

/-- A block of numbered lines divides them: there are the lines in front of it, the opening marker,
the code, the closing marker and the lines behind it. -/
theorem IsBlock.exists_split {lines : List String} {number : Nat} {snippet : Snippet}
    (hblock : IsBlock language (lines.zipIdx number) snippet) :
    ∃ front opener code closer back, lines = front ++ opener :: (code ++ closer :: back) ∧
      Closes language closer ∧ snippet = codeBlock snippet.file (number + front.length) code := by
  obtain ⟨entry, hentry, hnumber, hopens⟩ := hblock.opened
  obtain ⟨front, rest, rfl, hplace⟩ := exists_split_of_mem_zipIdx hentry
  rw [List.zipIdx_append] at hblock
  have hfront : ∀ other ∈ front.zipIdx number, (other.2 : Int) < snippet.first - 1 := by
    intro other hother
    have hlt := List.snd_lt_add_of_mem_zipIdx hother
    omega
  have hbehind := (isBlock_append_iff hfront).mp hblock
  obtain ⟨code, closer, back, rfl, -, hcloses, hsnippet⟩ :=
    hbehind.exists_code hopens (by omega) rfl
  exact ⟨front, entry.1, code, closer, back, rfl, hcloses, hsnippet⟩

/-- Behind a block there are the blocks of the lines behind it. -/
theorem Blocks.of_block_cons
    (hblocks : Blocks language file ((opener :: (code ++ closer :: rest)).zipIdx number)
      (codeBlock file number code :: more)) :
    Blocks language file (rest.zipIdx (number + code.length + 2)) more := by
  have hlater {snippet : Snippet} (hmem : snippet ∈ more) :
      (number : Int) + code.length + 1 < snippet.first - 1 := by
    have hlt := hblocks.lt_of_mem hmem
    rwa [codeBlock_last] at hlt
  refine ⟨fun snippet hmem => ?_, fun snippet hmem => ?_,
    (List.isChain_cons.mp hblocks.ordered).2, fun entry hentry hopens => ?_⟩
  · exact hblocks.file snippet (List.mem_cons_of_mem _ hmem)
  · exact (isBlock_behind_iff (hlater hmem)).mp
      (hblocks.block snippet (List.mem_cons_of_mem _ hmem))
  · have hnumber := List.le_snd_of_mem_zipIdx hentry
    have hmem : entry ∈ (opener :: (code ++ closer :: rest)).zipIdx number := by
      rw [zipIdx_block]
      exact List.mem_cons_of_mem _ (List.mem_append_right _ (List.mem_cons_of_mem _ hentry))
    obtain ⟨snippet, hsnippet, hlo, hhi⟩ := hblocks.outside entry hmem hopens
    rcases List.mem_cons.mp hsnippet with rfl | hsnippet
    · rw [codeBlock_last] at hhi
      omega
    · exact ⟨snippet, hsnippet, hlo, hhi⟩

/-- An opening marker at the head of lines opens the first of their blocks. -/
theorem Blocks.of_opener (hline : Opens language line)
    (hblocks : Blocks language file ((line :: rest).zipIdx number) snippets) :
    ∃ code closer back more, rest = code ++ closer :: back ∧
      (∀ line ∈ code, IsCode language line) ∧ Closes language closer ∧
      snippets = codeBlock file number code :: more ∧
      Blocks language file (back.zipIdx (number + code.length + 2)) more := by
  have hfirst {snippet : Snippet} (hmem : snippet ∈ snippets) :
      (number : Int) ≤ snippet.first - 1 := by
    obtain ⟨entry, hentry, hnumber, -⟩ := (hblocks.block snippet hmem).opened
    have := List.le_snd_of_mem_zipIdx hentry
    omega
  obtain ⟨snippet, hmem, hlower, -⟩ :=
    hblocks.outside (line, number) List.mem_cons_self hline
  dsimp only at hlower
  cases snippets with
  | nil => cases hmem
  | cons head more =>
    -- Of all blocks only the first one can begin as early as the marker.
    have hhead : head.first = number + 1 := by
      have hbegins := hfirst (List.mem_cons_self (a := head))
      have hle := first_le_last_add_one head
      rcases List.mem_cons.mp hmem with rfl | hlater
      · omega
      · have hbefore := hblocks.lt_of_mem hlater
        omega
    obtain ⟨code, closer, back, rfl, hcode, hcloser, rfl⟩ :=
      (hblocks.block head List.mem_cons_self).exists_code hline hhead
        (hblocks.file head List.mem_cons_self)
    exact ⟨code, closer, back, more, rfl, hcode, hcloser, rfl, hblocks.of_block_cons⟩

end Reading

/-- The scanner finds the blocks of lines. -/
theorem Blocks.scanFrom {lines : List String} {number : Nat} {snippets : List Snippet}
    (hblocks : Blocks language file (lines.zipIdx number) snippets) :
    Block.scanFrom file language number none lines = .ok snippets := by
  -- A block is read as a whole, so the induction is on the number of lines.
  induction hlength : lines.length using Nat.strongRecOn generalizing lines number snippets with
  | _ length ih =>
    subst hlength
    cases lines with
    | nil =>
      cases snippets with
      | nil => rfl
      | cons snippet more =>
        obtain ⟨entry, hentry, -⟩ := (hblocks.block snippet List.mem_cons_self).opened
        cases hentry
    | cons line rest =>
      by_cases hline : Opens language line
      · obtain ⟨code, closer, back, more, rfl, hcode, hcloser, rfl, hmore⟩ :=
          hblocks.of_opener hline
        have hshorter : back.length < (line :: (code ++ closer :: back)).length := by
          simp only [List.length_cons, List.length_append]
          omega
        have hnumber : number + 1 + code.length + 1 = number + code.length + 2 := by omega
        rw [scanFrom_opener hline, scanFrom_code hcode, scanFrom_closer hcloser, hnumber,
          ih _ hshorter hmore rfl, List.append_nil]
        rfl
      · have hshorter : rest.length < (line :: rest).length := by
          rw [List.length_cons]
          omega
        rw [scanFrom_outside hline]
        exact ih _ hshorter ((blocks_outside_iff hline).mp hblocks) rfl

/-- Settled lines have blocks. -/
theorem Settled.exists_blocks {lines : List String} (hlines : Settled language lines)
    (file : String) (number : Nat) :
    ∃ snippets, Blocks language file (lines.zipIdx number) snippets := by
  induction hlines generalizing number with
  | nil =>
    exact ⟨[], List.forall_mem_nil _, List.forall_mem_nil _, .nil, List.forall_mem_nil _⟩
  | outside hline _ ih =>
    obtain ⟨snippets, hblocks⟩ := ih (number + 1)
    exact ⟨snippets, (blocks_outside_iff hline).mpr hblocks⟩
  | @block opener closer code rest hopener hcode hcloser _ ih =>
    obtain ⟨more, hmore⟩ := ih (number + code.length + 2)
    exact ⟨_, hmore.block_cons hopener hcode hcloser⟩

/-- The scanner finds exactly the blocks of lines. -/
theorem scanFrom_eq_ok_iff {lines : List String} {number : Nat} {snippets : List Snippet} :
    scanFrom file language number none lines = .ok snippets ↔
      Blocks language file (lines.zipIdx number) snippets := by
  refine ⟨fun hscan => ?_, Blocks.scanFrom⟩
  rcases settled_or_leftOpen language lines with hsettled | ⟨before, hopen⟩
  · obtain ⟨found, hfound⟩ := hsettled.exists_blocks file number
    rw [hfound.scanFrom] at hscan
    rwa [← Except.ok.inj hscan]
  · rw [hopen.scanFrom file number] at hscan
    cases hscan

end ILGraft.Block
