import ILGraft.Proofs.Weave
import Mathlib.Data.List.Induction

/-!
# Carrying out placements

Every line of a merged document stands behind the copies placed up to its position, which gives
its place in the merged lines. Splicing one more snippet in there extends the weave, and splicing
all snippets in, the last place first, is the weave of all of them.
-/

namespace ILGraft.Splice

variable {α : Type}

/-- Placements up to a position are those before it and those at it. -/
theorem filter_le_perm (placements : List Placement) (position : Nat) :
    (placements.filter fun placement => placement.index ≤ (position : Int)).Perm
      ((placements.filter fun placement => placement.index < (position : Int)) ++
        placements.filter fun placement => placement.index = (position : Int)) := by
  have hsplit := List.filter_append_perm
    (fun placement : Placement => placement.index < (position : Int))
    (placements.filter fun placement => placement.index ≤ (position : Int))
  rw [List.filter_filter, List.filter_filter] at hsplit
  have hbefore (index : Int) :
      (decide (index < position) && decide (index ≤ position)) = decide (index < position) := by
    rw [← Bool.decide_and, decide_eq_decide]
    omega
  have hat (index : Int) :
      (!decide (index < position) && decide (index ≤ position)) = decide (index = position) := by
    rw [← decide_not, ← Bool.decide_and, decide_eq_decide]
    omega
  simp only [hbefore, hat] at hsplit
  exact hsplit.symm

private theorem added_filter_le (placements : List Placement) (position : Nat) :
    added (placements.filter fun placement => placement.index ≤ (position : Int)) =
      added (placements.filter fun placement => placement.index < (position : Int)) +
        added (placements.filter fun placement => placement.index = (position : Int)) := by
  have hperm := (filter_le_perm placements position).flatMap_right fun placement =>
    placement.snippet.annotated
  rw [added, hperm.length_eq, List.flatMap_append, List.length_append, added, added]

/-- The copies at a position have as many lines as the placements there put in. -/
theorem length_copiesAt {copy : Snippet → List α}
    (hcopy : ∀ snippet, (copy snippet).length = snippet.annotated.length)
    (placements : List Placement) (position : Nat) :
    (copiesAt copy placements position).length =
      added (placements.filter fun placement => placement.index = (position : Int)) := by
  rw [copiesAt, added, List.length_flatMap, List.length_flatMap]
  simp only [hcopy]

/-- Threaded lines grow by what is placed in front of them. -/
theorem length_thread {copy : Snippet → List α} {placements : List Placement}
    (hcopy : ∀ snippet, (copy snippet).length = snippet.annotated.length)
    (hindex : ∀ placement ∈ placements, 0 ≤ placement.index) (lines : List α) :
    (thread copy placements 0 lines).length = lines.length +
      added (placements.filter fun placement => placement.index < (lines.length : Int)) := by
  induction lines using List.reverseRecOn with
  | nil =>
    have hnone : (placements.filter fun placement => placement.index < ((0 : Nat) : Int)) = [] := by
      rw [List.filter_eq_nil_iff]
      intro placement hmem
      have := hindex placement hmem
      simpa using this
    rw [thread, List.length_nil, hnone]
    rfl
  | append_singleton lines line ih =>
    have hsucc : (placements.filter fun placement =>
        placement.index < ((lines ++ [line]).length : Int)) =
        placements.filter fun placement => placement.index ≤ (lines.length : Int) := by
      apply List.filter_congr
      intro placement _
      simp only [List.length_append, List.length_singleton, decide_eq_decide]
      omega
    rw [hsucc, added_filter_le, thread_append_singleton]
    simp only [List.length_append, List.length_singleton, ih, length_copiesAt hcopy]
    omega

/-- The merged lines in front of a line of the document are as many as `moved` says. -/
theorem length_thread_append_copiesAt {copy : Snippet → List α} {placements : List Placement}
    (hcopy : ∀ snippet, (copy snippet).length = snippet.annotated.length)
    (hindex : ∀ placement ∈ placements, 0 ≤ placement.index) (lines : List α) :
    (thread copy placements 0 lines ++ copiesAt copy placements lines.length).length =
      moved placements lines.length := by
  rw [List.length_append, length_thread hcopy hindex, length_copiesAt hcopy, moved,
    added_filter_le]
  omega

/-- Splicing a snippet into a weave, at the new place of a line of the document, is the weave with
one more placement. -/
theorem insert_weave {placements : List Placement}
    (hindex : ∀ placement ∈ placements, 0 ≤ placement.index) (snippet : Snippet)
    {position : Nat} {lines : List String} (hposition : position ≤ lines.length) :
    insert (weave Snippet.annotated placements lines)
        ⟨snippet, (moved placements position : Nat)⟩ =
      weave Snippet.annotated (placements ++ [⟨snippet, position⟩]) lines := by
  obtain ⟨front, back, rfl, rfl⟩ : ∃ front back, lines = front ++ back ∧ front.length = position :=
    ⟨_, _, (List.take_append_drop position lines).symm, List.length_take_of_le hposition⟩
  have hlength := length_thread_append_copiesAt (fun _ => rfl) hindex front
  have hthread : thread Snippet.annotated (placements ++ [⟨snippet, front.length⟩]) 0 front =
      thread Snippet.annotated placements 0 front := thread_congr fun k _ hk => by
    rw [copiesAt_append, copiesAt_singleton, if_neg (by simp only; omega), List.append_nil]
  have hbeyond : beyond Snippet.annotated (placements ++ [⟨snippet, front.length⟩])
      front.length back = beyond Snippet.annotated placements front.length back :=
    beyond_congr fun k hk => by
      rw [copiesAt_append, copiesAt_singleton, if_neg (by simp only; omega), List.append_nil]
  rw [weave_append, weave_append, hthread, hbeyond, copiesAt_append, copiesAt_singleton,
    if_pos rfl, insert]
  simp only [Int.toNat_natCast]
  rw [← hlength, List.take_left, List.drop_left]
  simp only [List.append_assoc]

/-- Splicing a snippet in before all that is placed at its position or behind it is the weave with
one more placement in front. -/
private theorem insert_weave_of_le {placement : Placement} {placements : List Placement}
    {lines : List String} (hfits : fits lines.length placement = true)
    (hfirst : ∀ other ∈ placements, placement.index ≤ other.index) :
    insert (weave Snippet.annotated placements lines) placement =
      weave Snippet.annotated (placement :: placements) lines := by
  simp only [fits, Bool.and_eq_true, decide_eq_true_eq] at hfits
  obtain ⟨position, hposition⟩ := Int.eq_ofNat_of_zero_le hfits.1
  obtain ⟨front, back, rfl, hfront⟩ :
      ∃ front back, lines = front ++ back ∧ front.length = position :=
    ⟨_, _, (List.take_append_drop position lines).symm, List.length_take_of_le (by omega)⟩
  have hcons : placement :: placements = [placement] ++ placements := rfl
  have hthread : thread Snippet.annotated placements 0 front = front :=
    thread_eq_self fun other hother => by
      have := hfirst other hother
      omega
  have hthread' : thread Snippet.annotated (placement :: placements) 0 front = front :=
    thread_eq_self fun other hother => by
      rcases List.mem_cons.mp hother with rfl | hother
      · omega
      · have := hfirst other hother
        omega
  have hbeyond : beyond Snippet.annotated (placement :: placements) front.length back =
      beyond Snippet.annotated placements front.length back := beyond_congr fun k hk => by
    rw [hcons, copiesAt_append, copiesAt_singleton, if_neg (by omega), List.nil_append]
  rw [weave_append, weave_append, hthread, hthread', hbeyond, hcons, copiesAt_append,
    copiesAt_singleton, if_pos (by omega), insert, hposition, Int.toNat_natCast, ← hfront]
  simp only [List.append_assoc, List.take_left, List.drop_left]

private theorem foldr_insert_eq_weave {placements : List Placement} {lines : List String}
    (hfits : ∀ placement ∈ placements, fits lines.length placement = true)
    (hsorted : placements.Pairwise fun one other => one.index ≤ other.index) :
    placements.foldr (fun placement merged => insert merged placement) lines =
      weave Snippet.annotated placements lines := by
  induction placements with
  | nil => rw [weave_nil, List.foldr_nil]
  | cons placement rest ih =>
    obtain ⟨hfirst, hrest⟩ := List.pairwise_cons.mp hsorted
    rw [List.foldr_cons, ih (fun other hother => hfits other (List.mem_cons_of_mem _ hother)) hrest]
    exact insert_weave_of_le (hfits placement List.mem_cons_self) hfirst

private theorem index_le_trans (one other third : Placement)
    (hone : decide (one.index ≤ other.index) = true)
    (hother : decide (other.index ≤ third.index) = true) :
    decide (one.index ≤ third.index) = true := by
  simp only [decide_eq_true_eq] at *
  omega

private theorem index_le_total (one other : Placement) :
    (decide (one.index ≤ other.index) || decide (other.index ≤ one.index)) = true := by
  simp only [Bool.or_eq_true, decide_eq_true_eq]
  omega

/-- Sorting by position keeps the placements of one position in their order. -/
private theorem filter_mergeSort (placements : List Placement) (position : Nat) :
    ((placements.mergeSort fun one other => one.index ≤ other.index).filter
        fun placement => placement.index = (position : Int)) =
      placements.filter fun placement => placement.index = (position : Int) := by
  have htied : (placements.filter fun placement => placement.index = (position : Int)).Pairwise
      fun one other => decide (one.index ≤ other.index) = true := by
    refine List.pairwise_iff_forall_sublist.mpr fun {one other} hsub => ?_
    have hone := List.of_mem_filter (hsub.subset List.mem_cons_self)
    have hother := List.of_mem_filter (hsub.subset (List.mem_cons_of_mem _ List.mem_cons_self))
    simp only [decide_eq_true_eq] at hone hother ⊢
    omega
  have hsublist :=
    List.sublist_mergeSort index_le_trans index_le_total htied List.filter_sublist
  have hfiltered := hsublist.filter fun placement => placement.index = (position : Int)
  rw [List.filter_filter] at hfiltered
  simp only [Bool.and_self] at hfiltered
  have hperm := (List.mergeSort_perm placements fun one other => one.index ≤ other.index).filter
    fun placement => placement.index = (position : Int)
  exact (hfiltered.eq_of_length hperm.length_eq.symm).symm

/-- Placements inside a document are carried out in one pass. -/
theorem merge_eq_weave {placements : List Placement} {lines : List String}
    (hfits : ∀ placement ∈ placements, fits lines.length placement = true) :
    merge lines placements = .ok (weave Snippet.annotated placements lines) := by
  have hnone : (placements.find? fun placement => !fits lines.length placement) = none := by
    rw [List.find?_eq_none]
    intro placement hmem
    simp [hfits placement hmem]
  have hsorted := List.pairwise_mergeSort index_le_trans index_le_total placements
  have hweave := foldr_insert_eq_weave
    (fun placement hmem => hfits placement (List.mem_mergeSort.mp hmem))
    (hsorted.imp fun hle => of_decide_eq_true hle)
  have hcopies (position : Nat) : copiesAt Snippet.annotated
      (placements.mergeSort fun one other => one.index ≤ other.index) position =
      copiesAt Snippet.annotated placements position := by
    rw [copiesAt, copiesAt, filter_mergeSort]
  rw [merge, hnone]
  simp only [lastFirst, List.foldl_reverse]
  rw [hweave, weave_congr hcopies]

/-- A single placement inside a document is carried out as it is. -/
theorem merge_singleton {placement : Placement} {lines : List String}
    (hfits : fits lines.length placement = true) :
    merge lines [placement] = .ok (insert lines placement) := by
  have hnone : ([placement].find? fun placement => !fits lines.length placement) = none := by
    simp [hfits]
  rw [merge, hnone]
  simp only [lastFirst, List.mergeSort_singleton, List.reverse_singleton, List.foldl_cons,
    List.foldl_nil]

/-- The new place of a line of the document lies inside the merged lines. -/
theorem moved_le_length_weave {copy : Snippet → List α} {placements : List Placement}
    (hcopy : ∀ snippet, (copy snippet).length = snippet.annotated.length)
    (hindex : ∀ placement ∈ placements, 0 ≤ placement.index) {position : Nat} {lines : List α}
    (hposition : position ≤ lines.length) :
    moved placements position ≤ (weave copy placements lines).length := by
  have hlength := length_thread_append_copiesAt hcopy hindex (lines.take position)
  rw [List.length_take_of_le hposition] at hlength
  conv_rhs => rw [← List.take_append_drop position lines, weave_append]
  rw [List.length_append, List.length_take_of_le hposition, hlength]
  exact Nat.le_add_right _ _

end ILGraft.Splice
