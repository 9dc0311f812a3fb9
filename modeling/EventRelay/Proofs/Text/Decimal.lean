import EventRelay.Proofs.Text.CodePoint
import EventRelay.Text.Decimal
import Mathlib.Data.List.Induction
import Mathlib.Logic.Function.Basic

namespace EventRelay.Text

@[simp] theorem toList_natText (n : Nat) : (natText n).toList = Nat.toDigits 10 n :=
  String.toList_ofList

/-- No two numbers are written alike. -/
theorem natText_injective : Function.Injective natText := by
  intro first second htext
  have hdigits : Nat.toDigits 10 first = Nat.toDigits 10 second := by
    simpa using congrArg String.toList htext
  have hvalue := congrArg (Nat.ofDigitChars 10 · 0) hdigits
  simpa using hvalue

theorem isDigit_of_mem_natText {n : Nat} {c : Char} (hmem : c ∈ (natText n).toList) :
    c.isDigit = true := by
  rw [toList_natText] at hmem
  exact Nat.isDigit_of_mem_toDigits (by decide) (by decide) hmem

/-- Only zero is written with a zero in front. -/
theorem head?_toDigits_ne_zero {n : Nat} (hpositive : 0 < n) :
    (Nat.toDigits 10 n).head? ≠ some '0' := by
  induction n using Nat.strongRecOn with
  | ind n ih =>
    by_cases hsmall : n < 10
    · rw [Nat.toDigits_of_lt_base hsmall, List.head?_cons]
      intro hzero
      have hnone := Nat.digitChar_eq_zero.1 (Option.some.inj hzero)
      omega
    · have hshorter := ih (n / 10) (by omega) (by omega)
      have hnonempty : Nat.toDigits 10 (n / 10) ≠ [] := Nat.toDigits_ne_nil
      obtain ⟨c, rest, hdigits⟩ := List.exists_cons_of_ne_nil hnonempty
      rw [hdigits] at hshorter
      rw [Nat.toDigits_of_base_le (by decide) (by omega), hdigits]
      exact hshorter

/-- Digits, and the number that they write in decimal. -/
structure IsDecimal (digits : List Char) (n : Nat) : Prop where
  nonempty : digits ≠ []
  isDigit : ∀ c ∈ digits, c.isDigit = true
  value : Nat.ofDigitChars 10 digits 0 = n

theorem isDecimal_toDigits (n : Nat) : IsDecimal (Nat.toDigits 10 n) n where
  nonempty := Nat.toDigits_ne_nil
  isDigit _ := Nat.isDigit_of_mem_toDigits (by decide) (by decide)
  value := Nat.ofDigitChars_ten_toDigits

/-- Zeros in front do not count. -/
theorem IsDecimal.zeros_append {digits : List Char} {n : Nat} (hdecimal : IsDecimal digits n)
    (zeros : Nat) : IsDecimal (List.replicate zeros '0' ++ digits) n where
  nonempty := List.append_ne_nil_of_right_ne_nil _ hdecimal.nonempty
  isDigit c hmem := by
    obtain hzero | hdigit := List.mem_append.1 hmem
    · rw [List.eq_of_mem_replicate hzero]
      rfl
    · exact hdecimal.isDigit c hdigit
  value := by
    rw [Nat.ofDigitChars_append, Nat.ofDigitChars_replicate_zero, Nat.mul_zero, hdecimal.value]

theorem digitChar_of_isDigit {c : Char} (hdigit : c.isDigit = true) :
    c.toNat - 48 < 10 ∧ Nat.digitChar (c.toNat - 48) = c := by
  obtain ⟨hlow, hhigh⟩ := isAsciiDigit_iff.1 hdigit
  refine ⟨by omega, Char.toNat_inj.1 ?_⟩
  rw [Nat.toNat_digitChar_of_lt_ten (by omega)]
  omega

/-- Digits that write one number differ only in the zeros in front. -/
theorem IsDecimal.exists_zeros {digits : List Char} {n : Nat} (hdecimal : IsDecimal digits n) :
    ∃ zeros, digits = List.replicate zeros '0' ++ Nat.toDigits 10 n := by
  induction digits using List.reverseRecOn generalizing n with
  | nil => exact absurd rfl hdecimal.nonempty
  | append_singleton front c ih =>
    obtain ⟨-, hdigits, rfl⟩ := hdecimal
    obtain ⟨hsmall, hchar⟩ := digitChar_of_isDigit (hdigits c (by simp))
    have hvalue : Nat.ofDigitChars 10 (front ++ [c]) 0 =
        10 * Nat.ofDigitChars 10 front 0 + (c.toNat - 48) := Nat.ofDigitChars_append 0
    rw [hvalue]
    by_cases hempty : front = []
    · refine ⟨0, ?_⟩
      rw [hempty, Nat.ofDigitChars_nil, Nat.mul_zero, Nat.zero_add,
        Nat.toDigits_of_lt_base hsmall, hchar]
      rfl
    obtain ⟨zeros, hfront⟩ := ih ⟨hempty, fun d hmem => hdigits d (by simp [hmem]), rfl⟩
    obtain hzero | hpositive := Nat.eq_zero_or_pos (Nat.ofDigitChars 10 front 0)
    · -- The front is all zeros, of which the last one is a number of its own no more.
      refine ⟨zeros + 1, ?_⟩
      rw [hzero, Nat.toDigits_zero] at hfront
      rw [hzero, Nat.mul_zero, Nat.zero_add, Nat.toDigits_of_lt_base hsmall, hchar, hfront,
        List.replicate_succ']
    · refine ⟨zeros, ?_⟩
      rw [← Nat.toDigits_append_toDigits (by decide) hpositive hsmall,
        Nat.toDigits_of_lt_base hsmall, hchar, ← List.append_assoc, ← hfront]

theorem le_ofDigitChars (value : Nat) (digits : List Char) :
    value ≤ Nat.ofDigitChars 10 digits value := by
  induction digits generalizing value with
  | nil => exact Nat.le_refl _
  | cons c rest ih =>
    rw [Nat.ofDigitChars_cons]
    exact Nat.le_trans (by omega) (ih _)

theorem readDigits_eq_ok_iff {limit value n : Nat} {text : List Char} (hvalue : value ≤ limit) :
    readDigits limit value text = .ok n ↔
      n ≤ limit ∧ (∀ c ∈ text, c.isDigit = true) ∧ Nat.ofDigitChars 10 text value = n := by
  induction text generalizing value with
  | nil =>
    rw [readDigits, Except.ok.injEq, Nat.ofDigitChars_nil]
    exact ⟨fun heq => ⟨heq ▸ hvalue, nofun, heq⟩, fun ⟨_, _, heq⟩ => heq⟩
  | cons c rest ih =>
    have hcons : Nat.ofDigitChars 10 (c :: rest) value =
        Nat.ofDigitChars 10 rest (10 * value + digitValue c) := Nat.ofDigitChars_cons
    rw [readDigits, hcons, List.forall_mem_cons]
    by_cases hdigit : isAsciiDigit c = true
    · rw [if_neg (by simp [hdigit])]
      by_cases hlimit : limit < 10 * value + digitValue c
      · -- More digits do not make a number smaller.
        have hle := le_ofDigitChars (10 * value + digitValue c) rest
        rw [if_pos hlimit]
        exact ⟨nofun, fun ⟨hn, _, heq⟩ => by omega⟩
      · rw [if_neg hlimit, ih (by omega), and_iff_right (show c.isDigit = true from hdigit)]
    · rw [if_pos (by simpa using hdigit)]
      exact ⟨nofun, fun ⟨_, hall, _⟩ => absurd hall.1 hdigit⟩

/-- A number is read from its digits, possibly after one plus sign, if it keeps to the limit. -/
theorem readNat_eq_ok_iff {limit n : Nat} {text : List Char} : readNat limit text = .ok n ↔
    n ≤ limit ∧ ∃ digits, IsDecimal digits n ∧ (text = digits ∨ text = '+' :: digits) := by
  have hread {digits : List Char} (hnonempty : digits ≠ []) :
      readDigits limit 0 digits = .ok n ↔ n ≤ limit ∧ IsDecimal digits n := by
    rw [readDigits_eq_ok_iff (Nat.zero_le _)]
    exact ⟨fun ⟨hn, hdigits, hvalue⟩ => ⟨hn, hnonempty, hdigits, hvalue⟩,
      fun ⟨hn, hdecimal⟩ => ⟨hn, hdecimal.isDigit, hdecimal.value⟩⟩
  have hsign {digits : List Char} (hdecimal : IsDecimal ('+' :: digits) n) : False :=
    absurd (hdecimal.isDigit '+' List.mem_cons_self) (by decide)
  rw [readNat.eq_def]
  split
  case h_1 =>
    refine ⟨nofun, ?_⟩
    rintro ⟨-, digits, hdecimal, heq | heq⟩
    · exact absurd heq.symm hdecimal.nonempty
    · cases heq
  case h_2 =>
    refine ⟨nofun, ?_⟩
    rintro ⟨-, digits, hdecimal, heq | heq⟩
    · exact (hsign (heq ▸ hdecimal)).elim
    · exact absurd (List.cons.inj heq).2.symm hdecimal.nonempty
  case h_3 digits hmore =>
    rw [hread fun hnil => hmore (by rw [hnil])]
    refine and_congr_right fun _ => ⟨fun hdecimal => ⟨digits, hdecimal, .inr rfl⟩, ?_⟩
    rintro ⟨found, hdecimal, heq | heq⟩
    · exact (hsign (heq ▸ hdecimal)).elim
    · rwa [(List.cons.inj heq).2]
  case h_4 hnonempty _ hunsigned =>
    rw [hread hnonempty]
    refine and_congr_right fun _ => ⟨fun hdecimal => ⟨text, hdecimal, .inl rfl⟩, ?_⟩
    rintro ⟨found, hdecimal, heq | heq⟩
    · rwa [heq]
    · exact absurd heq (hunsigned found)

/-- What is read keeps to the limit. -/
theorem readNat_le {limit n : Nat} {text : List Char} (hread : readNat limit text = .ok n) :
    n ≤ limit :=
  (readNat_eq_ok_iff.1 hread).1

end EventRelay.Text
