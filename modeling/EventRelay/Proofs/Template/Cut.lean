import EventRelay.Template
import EventRelay.Proofs.Text.Pairs

namespace EventRelay.Template

open Text

/-- The parts of a text, from left to right. An action begins at the first doubled brace after the
action before it, and ends at the first doubled brace after its own. -/
inductive IsCut : List Char → Cut → Prop
  | tail {text : List Char} (hnone : NoPair '{' text) : IsCut text (.tail text)
  | unclosed {text literal inside : List Char} (hopen : FirstPair '{' text literal inside)
      (hnone : NoPair '}' inside) : IsCut text (.unclosed literal)
  | action {text literal inside action after : List Char} {rest : Cut}
      (hopen : FirstPair '{' text literal inside) (hclose : FirstPair '}' inside action after)
      (hrest : IsCut after rest) : IsCut text (.action literal action rest)

variable {text literal inside action after before : List Char} {parts : Cut}

theorem cutLiteral_cons {c : Char} (hhead : ¬ (c = '{' ∧ text.head? = some '{')) :
    cutLiteral before (c :: text) = cutLiteral (c :: before) text := by
  rw [cutLiteral]
  rintro rest rfl rfl
  exact hhead ⟨rfl, rfl⟩

theorem cutAction_cons {c : Char} (hhead : ¬ (c = '}' ∧ text.head? = some '}')) :
    cutAction literal before (c :: text) = cutAction literal (c :: before) text := by
  rw [cutAction]
  rintro rest rfl rfl
  exact hhead ⟨rfl, rfl⟩

theorem cutLiteral_of_noPair (hnone : NoPair '{' text) :
    cutLiteral before text = .tail (before.reverse ++ text) := by
  induction text generalizing before with
  | nil => rw [cutLiteral, List.append_nil]
  | cons c text ih =>
    have hhead := hnone.not_head
    rw [cutLiteral_cons hhead, ih ((noPair_cons_iff hhead).1 hnone), List.reverse_cons,
      List.append_assoc, List.singleton_append]

theorem cutAction_of_noPair (hnone : NoPair '}' text) :
    cutAction literal before text = .unclosed literal := by
  induction text generalizing before with
  | nil => rw [cutAction]
  | cons c text ih =>
    have hhead := hnone.not_head
    rw [cutAction_cons hhead, ih ((noPair_cons_iff hhead).1 hnone)]

theorem cutLiteral_of_firstPair (hopen : FirstPair '{' text literal inside) :
    cutLiteral before text = cutAction (before.reverse ++ literal) [] inside := by
  induction text generalizing before literal with
  | nil => exact absurd hopen.text_eq (by simp)
  | cons c text ih =>
    obtain ⟨hmark, hliteral, hinside⟩ | ⟨hhead, literal, rfl, hlater⟩ := hopen.cons_cases
    · subst hliteral hmark hinside
      rw [cutLiteral, List.append_nil]
    · rw [cutLiteral_cons hhead, ih hlater, List.reverse_cons, List.append_assoc,
        List.singleton_append]

theorem cutAction_of_firstPair (hclose : FirstPair '}' text action after) :
    cutAction literal before text = .action literal (before.reverse ++ action) (cut after) := by
  induction text generalizing before action with
  | nil => exact absurd hclose.text_eq (by simp)
  | cons c text ih =>
    obtain ⟨hmark, haction, hafter⟩ | ⟨hhead, action, rfl, hlater⟩ := hclose.cons_cases
    · subst haction hmark hafter
      rw [cutAction, List.append_nil, cut]
    · rw [cutAction_cons hhead, ih hlater, List.reverse_cons, List.append_assoc,
        List.singleton_append]

theorem IsCut.cut_eq (hcut : IsCut text parts) : cut text = parts := by
  induction hcut with
  | tail hnone => rw [cut, cutLiteral_of_noPair hnone, List.reverse_nil, List.nil_append]
  | unclosed hopen hnone => rw [cut, cutLiteral_of_firstPair hopen, cutAction_of_noPair hnone,
      List.reverse_nil, List.nil_append]
  | action hopen hclose _ ih => rw [cut, cutLiteral_of_firstPair hopen,
      cutAction_of_firstPair hclose, ih, List.reverse_nil, List.nil_append, List.nil_append]

theorem exists_isCut (text : List Char) : ∃ parts, IsCut text parts := by
  induction hlength : text.length using Nat.strong_induction_on generalizing text with
  | _ length ih =>
    subst hlength
    obtain hnone | ⟨literal, inside, hopen⟩ := noPair_or_exists_firstPair '{' text
    · exact ⟨_, .tail hnone⟩
    obtain hnone | ⟨action, after, hclose⟩ := noPair_or_exists_firstPair '}' inside
    · exact ⟨_, .unclosed hopen hnone⟩
    obtain ⟨rest, hrest⟩ := ih after.length (hclose.length_lt.trans hopen.length_lt) after rfl
    exact ⟨_, .action hopen hclose hrest⟩

/-- Every text is cut in one way only, and that is the way it is read. -/
theorem isCut_iff : IsCut text parts ↔ cut text = parts := by
  refine ⟨IsCut.cut_eq, ?_⟩
  rintro rfl
  obtain ⟨parts, hcut⟩ := exists_isCut text
  rwa [hcut.cut_eq]

theorem cut_of_noPair (hnone : NoPair '{' text) : cut text = .tail text :=
  (IsCut.tail hnone).cut_eq

theorem cut_of_unclosed (hopen : FirstPair '{' text literal inside) (hnone : NoPair '}' inside) :
    cut text = .unclosed literal :=
  (IsCut.unclosed hopen hnone).cut_eq

theorem cut_of_action (hopen : FirstPair '{' text literal inside)
    (hclose : FirstPair '}' inside action after) :
    cut text = .action literal action (cut after) :=
  (IsCut.action hopen hclose (isCut_iff.2 rfl)).cut_eq

end EventRelay.Template
