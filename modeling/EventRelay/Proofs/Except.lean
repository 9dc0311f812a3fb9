import Mathlib.Data.List.Forall2

namespace EventRelay

variable {ε α β : Type} {result : Except ε α}

theorem eq_of_eq_ok {value value' : α} (hvalue : result = .ok value) (hvalue' : result = .ok value') :
    value = value' :=
  Except.ok.inj (hvalue.symm.trans hvalue')

theorem toOption_eq_some {value : α} : result.toOption = some value ↔ result = .ok value := by
  cases result with
  | error error => simp [Except.toOption]
  | ok found => simp [Except.toOption]

theorem bind_eq_ok {next : α → Except ε β} {value : β} :
    result >>= next = .ok value ↔ ∃ found, result = .ok found ∧ next found = .ok value := by
  cases result with
  | error error => simp [bind, Except.bind]
  | ok found => simp [bind, Except.bind]

theorem map_eq_ok {f : α → β} {value : β} :
    f <$> result = .ok value ↔ ∃ found, result = .ok found ∧ f found = value := by
  cases result with
  | error error => simp [Functor.map, Except.map]
  | ok found => simp [Functor.map, Except.map]

theorem map_eq_error {f : α → β} {error : ε} : f <$> result = .error error ↔ result = .error error := by
  cases result with
  | error other => simp [Functor.map, Except.map]
  | ok found => simp [Functor.map, Except.map]

/-- Reading a list reads its members. -/
theorem mapM_eq_ok {f : α → Except ε β} {list : List α} {values : List β} :
    list.mapM f = .ok values ↔ List.Forall₂ (f · = .ok ·) list values := by
  induction list generalizing values with
  | nil =>
    rw [List.mapM_nil, List.forall₂_nil_left_iff]
    exact ⟨fun heq => (Except.ok.inj heq).symm, fun heq => congrArg Except.ok heq.symm⟩
  | cons first rest ih =>
    simp only [List.mapM_cons, bind_pure_comp, bind_eq_ok, map_eq_ok, ih,
      List.forall₂_cons_left_iff]
    exact ⟨fun ⟨value, hvalue, others, hothers, heq⟩ => ⟨value, others, hvalue, hothers, heq.symm⟩,
      fun ⟨value, others, hvalue, hothers, heq⟩ => ⟨value, hvalue, others, hothers, heq.symm⟩⟩

end EventRelay
