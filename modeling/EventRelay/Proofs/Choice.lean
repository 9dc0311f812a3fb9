import EventRelay.Action

namespace EventRelay

/-- The first choice that is not left unset. -/
def firstSet {α : Type} [DecidableEq α] (unset : α) : List α → α
  | [] => unset
  | choice :: choices => if choice = unset then firstSet unset choices else choice

section

variable {α : Type} [DecidableEq α]

theorem firstSet_cons (unset choice : α) (choices : List α) :
    firstSet unset (choice :: choices) =
      if choice = unset then firstSet unset choices else choice :=
  rfl

@[simp] theorem firstSet_singleton (unset choice : α) : firstSet unset [choice] = choice := by
  rw [firstSet_cons]
  split
  case isTrue hunset => exact hunset.symm
  case isFalse => rfl

/-- A choice among choices is one choice among all of them. -/
theorem firstSet_firstSet_cons (unset : α) (inner outer : List α) :
    firstSet unset (firstSet unset inner :: outer) = firstSet unset (inner ++ outer) := by
  induction inner with
  | nil => rw [firstSet, firstSet_cons, if_pos rfl, List.nil_append]
  | cons choice inner ih =>
    rw [firstSet_cons unset choice inner, List.cons_append, firstSet_cons unset choice]
    split
    · exact ih
    case isFalse hset => rw [firstSet_cons, if_neg hset]

/-- The same where the inner choice comes last. -/
theorem firstSet_concat_firstSet (unset : α) (outer inner : List α) :
    firstSet unset (outer ++ [firstSet unset inner]) = firstSet unset (outer ++ inner) := by
  induction outer with
  | nil => rw [List.nil_append, firstSet_singleton, List.nil_append]
  | cons choice outer ih => rw [List.cons_append, firstSet_cons, ih, List.cons_append, firstSet_cons]

/-- Where some choice is set, the outcome is. -/
theorem firstSet_ne_unset {unset choice : α} {choices : List α} (hmem : choice ∈ choices)
    (hset : choice ≠ unset) : firstSet unset choices ≠ unset := by
  induction choices with
  | nil => cases hmem
  | cons first rest ih =>
    rw [firstSet_cons]
    split
    case isTrue hunset =>
      obtain rfl | hmem := List.mem_cons.1 hmem
      · exact absurd hunset hset
      · exact ih hmem
    case isFalse hfirst => exact hfirst

theorem firstSet_eq_find? (unset : α) (choices : List α) :
    firstSet unset choices = (choices.find? (· != unset)).getD unset := by
  induction choices with
  | nil => rfl
  | cons choice choices ih => by_cases hunset : choice = unset <;> simp [firstSet_cons, ih, hunset]

end

theorem getD_nonempty? (text : String) (texts : List String) :
    (nonempty? text).getD (firstSet "" texts) = firstSet "" (text :: texts) := by
  rw [firstSet_cons, nonempty?]
  split <;> rfl

/-- A choice that is missing counts as empty. -/
theorem getD_bind_nonempty? (text? : Option String) (texts : List String) :
    (text?.bind nonempty?).getD (firstSet "" texts) = firstSet "" (text?.getD "" :: texts) := by
  cases text? with
  | none => simp [firstSet_cons]
  | some text => exact getD_nonempty? text texts

/-- What was chosen is chosen again. -/
theorem bind_nonempty?_eq_some_iff {text? : Option String} {text : String} :
    text?.bind nonempty? = some text ↔ text? = some text ∧ text ≠ "" := by
  cases text? with
  | none => simp
  | some given =>
    by_cases hempty : given = ""
    · simp only [Option.bind_some, nonempty?, if_pos hempty, reduceCtorEq, Option.some.injEq, false_iff]
      rintro ⟨rfl, hnonempty⟩
      exact hnonempty hempty
    · simp only [Option.bind_some, nonempty?, if_neg hempty, Option.some.injEq, iff_self_and]
      rintro rfl
      exact hempty

theorem bind_nonempty?_eq_none_iff {text? : Option String} :
    text?.bind nonempty? = none ↔ ∀ text, text? = some text → text = "" := by
  simp [nonempty?]

theorem bind_nonempty?_bind_nonempty? (text? : Option String) :
    (text?.bind nonempty?).bind nonempty? = text?.bind nonempty? := by
  cases text? with
  | none => rfl
  | some text => by_cases hempty : text = "" <;> simp [nonempty?, hempty]

theorem getD_bind_positive? (seconds? : Option UInt32) (default : UInt32) :
    (seconds?.bind positive?).getD default = firstSet 0 [seconds?.getD 0, default] := by
  rw [firstSet_cons, firstSet_singleton]
  cases seconds? with
  | none => rfl
  | some seconds =>
    simp only [Option.bind_some, positive?, Option.getD_some]
    split <;> rfl

end EventRelay
