/-!
# Results of steps

Where one step follows another and either may fail, a result says that both have succeeded, and a
failure is that of the first step that has failed.
-/

namespace ILGraft

variable {ε α β : Type} {first : Except ε α} {next : α → Except ε β}

/-- Two steps with a result have both succeeded. -/
theorem of_bind_ok {result : β} (hok : first >>= next = .ok result) :
    ∃ middle, first = .ok middle ∧ next middle = .ok result := by
  cases first with
  | error fault => cases hok
  | ok middle => exact ⟨middle, rfl, hok⟩

/-- Two steps without a result have failed in the first or in the second. -/
theorem of_bind_error {fault : ε} (herror : first >>= next = .error fault) :
    first = .error fault ∨ ∃ middle, first = .ok middle ∧ next middle = .error fault := by
  cases first with
  | error other => exact .inl (congrArg Except.error (Except.error.inj herror))
  | ok middle => exact .inr ⟨middle, rfl, herror⟩

/-- Two steps fail exactly in the first or in the second. -/
theorem bind_eq_error_iff {fault : ε} :
    first >>= next = .error fault ↔
      first = .error fault ∨ ∃ middle, first = .ok middle ∧ next middle = .error fault := by
  refine ⟨of_bind_error, ?_⟩
  rintro (hfirst | ⟨middle, hfirst, hnext⟩)
  · rw [hfirst]
    rfl
  · rw [hfirst]
    exact hnext

/-- A step that fails exactly for some causes has a result exactly if there is no such cause. -/
theorem exists_ok_iff {cause : ε → Prop} (hcause : ∀ fault, first = .error fault ↔ cause fault) :
    (∃ result, first = .ok result) ↔ ∀ fault, ¬cause fault := by
  simp only [← hcause]
  cases first with
  | error fault => simp
  | ok result => simp

/-- A step succeeds whatever its failures are called. -/
theorem of_mapError_ok {δ : Type} {rename : ε → δ} {result : α}
    (hok : first.mapError rename = .ok result) : first = .ok result := by
  cases first with
  | error fault => cases hok
  | ok found => exact congrArg Except.ok (Except.ok.inj hok)

/-- A renamed failure is that of a step that fails. -/
theorem mapError_eq_error_iff {δ : Type} {rename : ε → δ} {fault : δ} :
    first.mapError rename = .error fault ↔
      ∃ cause, first = .error cause ∧ fault = rename cause := by
  cases first with
  | ok result =>
    refine iff_of_false nofun ?_
    rintro ⟨cause, hcause, -⟩
    cases hcause
  | error cause =>
    constructor
    · intro hfault
      exact ⟨cause, rfl, (Except.error.inj hfault).symm⟩
    · rintro ⟨other, hother, rfl⟩
      obtain rfl := Except.error.inj hother
      rfl

/-- A step fails whatever becomes of its result. -/
theorem map_eq_error_iff {fault : ε} {becomes : α → β} :
    first.map becomes = .error fault ↔ first = .error fault := by
  cases first with
  | error other => rw [Except.map, Except.error.injEq, Except.error.injEq]
  | ok result => simp only [Except.map, reduceCtorEq]

/-- A row of steps fails exactly with the failure of its first step that fails. -/
theorem mapM_eq_error_iff {step : α → Except ε β} {items : List α} {fault : ε} :
    items.mapM step = .error fault ↔
      ∃ before item after, items = before ++ item :: after ∧
        (∀ earlier ∈ before, ∃ result, step earlier = .ok result) ∧ step item = .error fault := by
  induction items with
  | nil =>
    rw [List.mapM_nil]
    constructor
    · intro hfault
      cases hfault
    · rintro ⟨before, item, after, hitems, -⟩
      cases before <;> cases hitems
  | cons head rest ih =>
    rw [List.mapM_cons]
    constructor
    · intro hfault
      rcases of_bind_error hfault with hhead | ⟨result, hhead, hlater⟩
      · exact ⟨[], head, rest, rfl, List.forall_mem_nil _, hhead⟩
      · -- Once the other steps have results, nothing is left that could fail.
        rcases of_bind_error hlater with hrest | ⟨results, -, hnone⟩
        · obtain ⟨before, item, after, rfl, hbefore, hitem⟩ := ih.mp hrest
          exact ⟨head :: before, item, after, rfl,
            List.forall_mem_cons.mpr ⟨⟨result, hhead⟩, hbefore⟩, hitem⟩
        · cases hnone
    · rintro ⟨before, item, after, hitems, hbefore, hitem⟩
      cases before with
      | nil =>
        obtain ⟨rfl, rfl⟩ := List.cons.inj hitems
        rw [hitem]
        rfl
      | cons first before =>
        obtain ⟨rfl, rfl⟩ := List.cons.inj hitems
        obtain ⟨⟨result, hfirst⟩, hbefore⟩ := List.forall_mem_cons.mp hbefore
        rw [hfirst, ih.mpr ⟨before, item, after, rfl, hbefore, hitem⟩]
        rfl

/-- A row of checks passes exactly if each of them does. -/
theorem forM_eq_ok_iff {check : α → Except ε Unit} {items : List α} :
    items.forM check = .ok () ↔ ∀ item ∈ items, check item = .ok () := by
  induction items with
  | nil => simp [List.forM, Pure.pure, Except.pure]
  | cons head rest ih =>
    rw [List.forall_mem_cons, ← ih, List.forM]
    constructor
    · intro hchecks
      obtain ⟨_, hhead, hrest⟩ := of_bind_ok hchecks
      exact ⟨hhead, hrest⟩
    · rintro ⟨hhead, hrest⟩
      rw [hhead]
      exact hrest

end ILGraft
