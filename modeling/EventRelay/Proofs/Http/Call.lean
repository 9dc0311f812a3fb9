import EventRelay.Http.Call
import EventRelay.Proofs.Text.Utf8

namespace EventRelay.Http.Call

open Text

/-- A text that can be the value of a header. Of the control characters it may hold tabs only. -/
def IsHeaderText (text : String) : Prop :=
  ∀ c ∈ text.toList, c = '\t' ∨ 0x20 ≤ c.toNat ∧ c.toNat ≠ 0x7F

instance (text : String) : Decidable (IsHeaderText text) :=
  List.decidableBAll (fun c => c = '\t' ∨ 0x20 ≤ c.toNat ∧ c.toNat ≠ 0x7F) text.toList

theorem isHeaderValue_iff {text : String} : isHeaderValue text = true ↔ IsHeaderText text := by
  have hchar (c : Char) : (∀ b ∈ String.utf8EncodeChar c,
      ((0x20 ≤ b && b != 0x7F) || b == 0x09) = true) ↔
        c = '\t' ∨ 0x20 ≤ c.toNat ∧ c.toNat ≠ 0x7F := by
    simp only [Bool.or_eq_true, Bool.and_eq_true, decide_eq_true_eq, bne_iff_ne, beq_iff_eq,
      UInt8.le_iff_toNat_le, ne_eq, ← UInt8.toNat_inj, ← Char.toNat_inj, UInt8.toNat_ofNat]
    by_cases hascii : c.toNat < 128
    · rw [Utf8.utf8EncodeChar_of_ascii hascii, List.forall_mem_singleton,
        Utf8.toNat_toUInt8_of_ascii hascii]
      exact or_comm
    · -- Beyond ASCII neither the character nor one of its bytes is a control.
      refine iff_of_true (fun b hmem => ?_) (.inr (by omega))
      have hbeyond := Utf8.le_toNat_of_mem_utf8EncodeChar (Nat.le_of_not_lt hascii) hmem
      omega
  simp only [isHeaderValue, IsHeaderText, List.all_eq_true, Utf8.encode, List.mem_flatMap, ← hchar]
  exact ⟨fun h c hc b hb => h b ⟨c, hc, hb⟩, fun h b hb => hb.elim fun c hc => h c hc.1 b hc.2⟩

theorem send_of_isHeaderText {call : Call} (htoken : IsHeaderText call.token) :
    call.send = .ask (.send call) .done :=
  if_pos (isHeaderValue_iff.2 htoken)

theorem send_of_not_isHeaderText {call : Call} (htoken : ¬ IsHeaderText call.token) :
    call.send = .done (.error "builder error") :=
  if_neg (mt isHeaderValue_iff.1 htoken)

end EventRelay.Http.Call
