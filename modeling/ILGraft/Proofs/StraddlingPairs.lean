import ILGraft.Proofs.SourceMarks

/-!
# Straddling pairs

A mark of a source file is a line of that file that gives a source line. Two marks of a file are
consecutive if no other mark of the file stands between them, whatever lines of other files do.
This file describes the pairs around a snippet by the positions of their marks alone, without any
search, and proves that the search tells apart whether there is no such pair, one, or several.
-/

namespace ILGraft

namespace Document

/-- A mark of a source file. -/
structure HasMark (document : Document) (file : String) (mark : Mark) : Prop where
  /-- The line at the position of the mark gives its number. -/
  given : ∃ marker, document.markers[mark.position]? = some marker ∧ marker.number = mark.number
  /-- The number is a source line. -/
  number_ne_zero : mark.number ≠ 0
  /-- The line belongs to the file. -/
  belongs : document.fileAt mark.position = file

/-- Two marks of a source file without another one between them. -/
structure Consecutive (document : Document) (file : String) (pair : Mark × Mark) : Prop where
  /-- The first mark is one of the file. -/
  first : document.HasMark file pair.1
  /-- The second mark is one of the file. -/
  second : document.HasMark file pair.2
  /-- The first mark stands in front of the second. -/
  ordered : pair.1.position < pair.2.position
  /-- A mark behind the first one is the second one or stands behind it. -/
  nothing_between : ∀ mark, document.HasMark file mark → pair.1.position < mark.position →
    pair.2.position ≤ mark.position

/-- Two consecutive marks of a snippet's file, one in front of its range and one behind it. -/
structure Straddles (document : Document) (snippet : Snippet) (pair : Mark × Mark) : Prop
    extends document.Consecutive snippet.file pair where
  /-- The first mark gives a line in front of the snippet. -/
  before : (pair.1.number : Int) < snippet.first
  /-- The second mark gives a line behind the snippet. -/
  behind : snippet.last < (pair.2.number : Int)

/-- The marks of a file are the marks listed for it. -/
theorem mem_marksOf_iff {document : Document} {file : String} {mark : Mark} :
    mark ∈ document.marksOf file ↔ document.HasMark file mark := by
  constructor
  · intro hmem
    obtain ⟨marker, hmarker, hnumber, hne, hfile⟩ := of_mem_marksOf hmem
    exact ⟨⟨marker, hmarker, hnumber⟩, hne, hfile⟩
  · rintro ⟨⟨marker, hmarker, hnumber⟩, hne, hfile⟩
    refine List.mem_filterMap.mpr ⟨(marker, mark.position), ?_, ?_⟩
    · exact List.mem_zipIdx_iff_getElem?.mpr hmarker
    · dsimp only
      rw [hnumber, if_pos ⟨hfile, hne⟩]

/-- A mark of a document is known by its position. -/
theorem HasMark.eq_of_position {document : Document} {file other : String} {one two : Mark}
    (hone : document.HasMark file one) (htwo : document.HasMark other two)
    (hposition : one.position = two.position) : one = two := by
  obtain ⟨marker, hmarker, hnumber⟩ := hone.given
  obtain ⟨marker', hmarker', hnumber'⟩ := htwo.given
  rw [hposition, hmarker'] at hmarker
  have hsame : marker' = marker := Option.some.inj hmarker
  have hnumbers : one.number = two.number := by rw [← hnumber, ← hnumber', hsame]
  cases one
  cases two
  simp only at hposition hnumbers
  rw [hposition, hnumbers]

/-- A mark lies inside the document. -/
theorem HasMark.position_lt {document : Document} {file : String} {mark : Mark}
    (hmark : document.HasMark file mark) : mark.position < document.lines.length := by
  obtain ⟨marker, hmarker, -⟩ := hmark.given
  have hlt := (List.getElem?_eq_some_iff.mp hmarker).1
  rwa [markers, List.length_map] at hlt

/-- Neighbours in marks that are listed by position have no other one between them. -/
private theorem mem_zip_tail_iff_of_pairwise {marks : List Mark}
    (hordered : marks.Pairwise fun one other => one.position < other.position)
    {pair : Mark × Mark} :
    pair ∈ marks.zip marks.tail ↔ pair.1 ∈ marks ∧ pair.2 ∈ marks ∧
      pair.1.position < pair.2.position ∧
      ∀ mark ∈ marks, pair.1.position < mark.position → pair.2.position ≤ mark.position := by
  rw [mem_zip_tail_iff]
  constructor
  · rintro ⟨front, back, rfl⟩
    obtain ⟨-, hpair, hfront⟩ := List.pairwise_append.mp hordered
    obtain ⟨hfirst, hsecond⟩ := List.pairwise_cons.mp hpair
    have hlt := hfirst pair.2 List.mem_cons_self
    refine ⟨by simp, by simp, hlt, fun mark hmark hbehind => ?_⟩
    rcases List.mem_append.mp hmark with hmark | hmark
    · have := hfront mark hmark pair.1 List.mem_cons_self
      omega
    rcases List.mem_cons.mp hmark with heq | hmark
    · rw [heq] at hbehind
      omega
    rcases List.mem_cons.mp hmark with heq | hmark
    · exact Nat.le_of_eq (congrArg Mark.position heq.symm)
    · exact Nat.le_of_lt ((List.pairwise_cons.mp hsecond).1 mark hmark)
  · rintro ⟨hone, htwo, hlt, hnone⟩
    obtain ⟨front, back, rfl⟩ := List.append_of_mem hone
    obtain ⟨-, hpair, hfront⟩ := List.pairwise_append.mp hordered
    obtain ⟨hfirst, hback⟩ := List.pairwise_cons.mp hpair
    have htwo : pair.2 ∈ back := by
      rcases List.mem_append.mp htwo with htwo | htwo
      · have := hfront pair.2 htwo pair.1 List.mem_cons_self
        omega
      rcases List.mem_cons.mp htwo with heq | htwo
      · rw [heq] at hlt
        omega
      · exact htwo
    cases back with
    | nil => cases htwo
    | cons next back =>
      have hnext : pair.2.position ≤ next.position :=
        hnone next (by simp) (hfirst next List.mem_cons_self)
      rcases List.mem_cons.mp htwo with heq | htwo
      · exact ⟨front, back, by rw [heq]⟩
      · have := (List.pairwise_cons.mp hback).1 pair.2 htwo
        omega

/-- The straddling pairs of a document are the pairs listed for the snippet. -/
theorem mem_straddling_iff {document : Document} {snippet : Snippet} {pair : Mark × Mark} :
    pair ∈ document.straddling snippet ↔ document.Straddles snippet pair := by
  rw [straddling, List.mem_filter,
    mem_zip_tail_iff_of_pairwise (document.marksOf_pairwise snippet.file)]
  simp only [mem_marksOf_iff, Snippet.isAmid, Bool.and_eq_true, decide_eq_true_eq]
  constructor
  · rintro ⟨⟨hfirst, hsecond, hlt, hnone⟩, hbefore, hbehind⟩
    exact ⟨⟨hfirst, hsecond, hlt, hnone⟩, hbefore, hbehind⟩
  · rintro ⟨⟨hfirst, hsecond, hlt, hnone⟩, hbefore, hbehind⟩
    exact ⟨⟨hfirst, hsecond, hlt, hnone⟩, hbefore, hbehind⟩

/-- Straddling pairs are listed by the positions of their second marks. -/
theorem straddling_pairwise (document : Document) (snippet : Snippet) :
    (document.straddling snippet).Pairwise fun one other =>
      one.2.position < other.2.position := by
  have hmarks := document.marksOf_pairwise snippet.file
  have hseconds : ((document.marksOf snippet.file).zip (document.marksOf snippet.file).tail).map
      Prod.snd = (document.marksOf snippet.file).tail := by
    apply List.map_snd_zip
    rw [List.length_tail]
    omega
  have htail := hmarks.sublist (List.tail_sublist _)
  rw [← hseconds, List.pairwise_map] at htail
  exact htail.filter _

end Document

namespace Placement

variable {document : Document} {snippet : Snippet}

/-- The second marks of the first two pairs that straddle a snippet stand at these positions. -/
def FirstTwo (document : Document) (snippet : Snippet) (first second : Nat) : Prop :=
  ∃ pair next, document.Straddles snippet pair ∧ document.Straddles snippet next ∧
    pair.2.position = first ∧ next.2.position = second ∧ first < second ∧
    ∀ other, document.Straddles snippet other → other = pair ∨ second ≤ other.2.position

/-- A snippet has no place exactly if no pair straddles it. -/
theorem locate_eq_unplaced_iff :
    locate document snippet = .error (.unplaced snippet) ↔
      ¬∃ pair, document.Straddles snippet pair := by
  simp only [← Document.mem_straddling_iff]
  rw [locate_eq_outcome]
  cases document.straddling snippet with
  | nil => simp [outcome]
  | cons pair rest => cases rest <;> simp [outcome]

/-- A snippet has a place exactly if one pair straddles it, and the place is that of its second
mark. -/
theorem locate_eq_ok_iff {place : Nat} :
    locate document snippet = .ok place ↔
      ∃ pair, document.Straddles snippet pair ∧
        (∀ other, document.Straddles snippet other → other = pair) ∧
        pair.2.position = place := by
  have hordered := document.straddling_pairwise snippet
  simp only [← Document.mem_straddling_iff]
  rw [locate_eq_outcome]
  cases hpairs : document.straddling snippet with
  | nil => simp [outcome]
  | cons pair rest =>
    cases rest with
    | nil => simp [outcome]
    | cons next rest =>
      rw [hpairs] at hordered
      have hlt := (List.pairwise_cons.mp hordered).1 next List.mem_cons_self
      simp only [List.map_cons, outcome, reduceCtorEq, false_iff]
      rintro ⟨only, -, honly, -⟩
      have hpair := honly pair List.mem_cons_self
      have hnext := honly next (List.mem_cons_of_mem _ List.mem_cons_self)
      rw [hpair, hnext] at hlt
      omega

/-- A snippet has several places exactly if several pairs straddle it, and the first two of them are
reported. -/
theorem locate_eq_ambiguous_iff {first second : Nat} :
    locate document snippet = .error (.ambiguous snippet first second) ↔
      FirstTwo document snippet first second := by
  have hordered := document.straddling_pairwise snippet
  simp only [FirstTwo, ← Document.mem_straddling_iff]
  rw [locate_eq_outcome]
  cases hpairs : document.straddling snippet with
  | nil => simp [outcome]
  | cons pair rest =>
    cases rest with
    | nil =>
      simp only [List.map_cons, List.map_nil, outcome, reduceCtorEq, false_iff, List.mem_singleton]
      rintro ⟨one, other, rfl, rfl, rfl, rfl, hlt, -⟩
      omega
    | cons next rest =>
      rw [hpairs] at hordered
      obtain ⟨hfirst, hlater⟩ := List.pairwise_cons.mp hordered
      have hsecond := (List.pairwise_cons.mp hlater).1
      have hlt := hfirst next List.mem_cons_self
      have hnext : next ∈ pair :: next :: rest := List.mem_cons_of_mem _ List.mem_cons_self
      simp only [List.map_cons, outcome, Except.error.injEq, Fault.ambiguous.injEq, true_and]
      constructor
      · rintro ⟨rfl, rfl⟩
        refine ⟨pair, next, List.mem_cons_self, hnext, rfl, rfl, hlt, fun other hother => ?_⟩
        rcases List.mem_cons.mp hother with rfl | hother
        · exact .inl rfl
        rcases List.mem_cons.mp hother with rfl | hother
        · exact .inr (Nat.le_refl _)
        · exact .inr (Nat.le_of_lt (hsecond other hother))
      · rintro ⟨one, other, hone, hother, rfl, rfl, hless, hall⟩
        -- Of the listed pairs, the first one alone is in front of the second mark of `other`.
        have hpair : pair = one := by
          rcases hall pair List.mem_cons_self with heq | hle
          · exact heq
          · rcases List.mem_cons.mp hone with heq | hone
            · exact heq.symm
            · have := hfirst one hone
              omega
        subst hpair
        refine ⟨rfl, ?_⟩
        have hle : other.2.position ≤ next.2.position := by
          rcases hall next hnext with heq | hle
          · rw [heq] at hlt
            omega
          · exact hle
        rcases List.mem_cons.mp hother with heq | hother
        · rw [heq] at hless
          omega
        rcases List.mem_cons.mp hother with heq | hother
        · rw [heq]
        · have := hsecond other hother
          omega

/-- A search ends in one of three ways, and speaks of its own snippet. -/
theorem locate_cases (document : Document) (snippet : Snippet) :
    (∃ place, locate document snippet = .ok place) ∨
      locate document snippet = .error (.unplaced snippet) ∨
      ∃ first second, locate document snippet = .error (.ambiguous snippet first second) := by
  rw [locate_eq_outcome]
  rcases document.straddling snippet with _ | ⟨pair, _ | ⟨next, rest⟩⟩
  · exact .inr (.inl rfl)
  · exact .inl ⟨_, rfl⟩
  · exact .inr (.inr ⟨_, _, rfl⟩)

/-- Two different pairs straddle a snippet exactly if there are a first and a second one. -/
theorem exists_firstTwo_iff :
    (∃ first second, FirstTwo document snippet first second) ↔
      ∃ pair other, document.Straddles snippet pair ∧ document.Straddles snippet other ∧
        pair ≠ other := by
  constructor
  · rintro ⟨first, second, pair, next, hpair, hnext, hfirst, hsecond, hlt, -⟩
    refine ⟨pair, next, hpair, hnext, ?_⟩
    rintro rfl
    omega
  · rintro ⟨pair, other, hpair, hother, hne⟩
    -- Neither of the other two ends of the search leaves room for two pairs.
    rcases locate_cases document snippet with ⟨place, hplace⟩ | hnone | ⟨first, second, hboth⟩
    · obtain ⟨only, -, honly, -⟩ := locate_eq_ok_iff.mp hplace
      exact absurd ((honly pair hpair).trans (honly other hother).symm) hne
    · exact absurd ⟨pair, hpair⟩ (locate_eq_unplaced_iff.mp hnone)
    · exact ⟨first, second, locate_eq_ambiguous_iff.mp hboth⟩

/-- A loop whose condition is compiled behind its body, so that the marks turn back once. -/
def turningMarks : Document where
  lines := [
    ⟨".line 3,3 : 1,2 'A.cs'", ⟨some "A.cs", 3⟩, rfl⟩,
    ⟨"nop", ⟨none, 0⟩, rfl⟩,
    ⟨".line 9,9 : 1,2 ''", ⟨none, 9⟩, rfl⟩,
    ⟨".line 2,2 : 1,2 ''", ⟨none, 2⟩, rfl⟩,
    ⟨".line 10,10 : 1,2 ''", ⟨none, 10⟩, rfl⟩,
    ⟨"ret", ⟨none, 0⟩, rfl⟩]

end Placement

end ILGraft
