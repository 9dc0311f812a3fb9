import EventRelay.Text.Blank

namespace EventRelay.Text

variable {c : Char}

theorem isAsciiUpper_iff : isAsciiUpper c = true ↔ 65 ≤ c.toNat ∧ c.toNat ≤ 90 := by
  simp only [isAsciiUpper, Bool.and_eq_true, decide_eq_true_eq]
  rfl

theorem isAsciiLower_iff : isAsciiLower c = true ↔ 97 ≤ c.toNat ∧ c.toNat ≤ 122 := by
  simp only [isAsciiLower, Bool.and_eq_true, decide_eq_true_eq]
  rfl

theorem isAsciiDigit_iff : isAsciiDigit c = true ↔ 48 ≤ c.toNat ∧ c.toNat ≤ 57 := by
  simp only [isAsciiDigit, Bool.and_eq_true, decide_eq_true_eq]
  rfl

theorem isAsciiUpper_eq_isUpper (c : Char) : isAsciiUpper c = c.isUpper :=
  (Bool.decide_and _ _).symm

theorem isAsciiAlphanumeric_eq_isAlphanum (c : Char) : isAsciiAlphanumeric c = c.isAlphanum := by
  rw [isAsciiAlphanumeric, isAsciiUpper_eq_isUpper]
  rfl

/-- The letters of ASCII are lowered, and no others. -/
theorem asciiLower_eq_toLower (c : Char) : asciiLower c = c.toLower := by
  have hupper : isAsciiUpper c = true ↔ c.val ≥ 'A'.val ∧ c.val ≤ 'Z'.val := by
    rw [isAsciiUpper_eq_isUpper]
    exact decide_eq_true_iff
  change asciiLower c = dite (c.val ≥ 'A'.val ∧ c.val ≤ 'Z'.val) _ _
  rw [asciiLower]
  by_cases hcase : c.val ≥ 'A'.val ∧ c.val ≤ 'Z'.val
  · have hrange := isAsciiUpper_iff.1 (hupper.2 hcase)
    have hvalid : (c.toNat + 32).isValidChar := .inl (by omega)
    rw [if_pos (hupper.2 hcase), dif_pos hcase, ← Char.toNat_inj, Char.ofNat, dif_pos hvalid]
    change c.toNat + 32 = (c.val + 32).toNat
    rw [UInt32.toNat_add]
    change c.toNat + 32 = (c.toNat + 32) % 2 ^ 32
    omega
  · rw [if_neg (mt hupper.1 hcase), dif_neg hcase]

theorem map_asciiLower_eq_iff {text text' : String} :
    text.toList.map asciiLower = text'.toList.map asciiLower ↔ text.toLower = text'.toLower := by
  change _ ↔ text.map Char.toLower = text'.map Char.toLower
  rw [← String.toList_inj, String.toList_map, String.toList_map, funext asciiLower_eq_toLower]

theorem isAsciiAlphanumeric_iff {c : Char} : isAsciiAlphanumeric c = true ↔
    65 ≤ c.toNat ∧ c.toNat ≤ 90 ∨ 97 ≤ c.toNat ∧ c.toNat ≤ 122 ∨ 48 ≤ c.toNat ∧ c.toNat ≤ 57 := by
  rw [isAsciiAlphanumeric, Bool.or_eq_true, Bool.or_eq_true, isAsciiUpper_iff, isAsciiLower_iff,
    isAsciiDigit_iff, or_assoc]

theorem toNat_asciiUpper (c : Char) : (asciiUpper c).toNat =
    if 97 ≤ c.toNat ∧ c.toNat ≤ 122 then c.toNat - 32 else c.toNat := by
  rw [asciiUpper]
  by_cases hlower : isAsciiLower c = true
  · have hrange := isAsciiLower_iff.1 hlower
    rw [if_pos hlower, if_pos hrange, Char.ofNat, dif_pos (.inl (by omega))]
    rfl
  · rw [if_neg hlower, if_neg (mt isAsciiLower_iff.2 hlower)]

theorem toNat_toLower (c : Char) : c.toLower.toNat =
    if 65 ≤ c.toNat ∧ c.toNat ≤ 90 then c.toNat + 32 else c.toNat := by
  rw [← asciiLower_eq_toLower, asciiLower]
  by_cases hupper : isAsciiUpper c = true
  · have hrange := isAsciiUpper_iff.1 hupper
    rw [if_pos hupper, if_pos hrange, Char.ofNat, dif_pos (.inl (by omega))]
    rfl
  · rw [if_neg hupper, if_neg (mt isAsciiUpper_iff.2 hupper)]

/-- The characters of ASCII from the exclamation mark to the tilde are no blanks. -/
theorem isBlank_of_visible (hfirst : 33 ≤ c.toNat) (hlast : c.toNat ≤ 126) : isBlank c = false := by
  have hout : ∀ range ∈ blanks, range.2 < 33 ∨ 126 < range.1 := by decide
  rw [isBlank, inRanges, List.any_eq_false]
  intro range hrange hin
  rw [Bool.and_eq_true, decide_eq_true_eq, decide_eq_true_eq] at hin
  have hrange := hout range hrange
  omega

theorem isBlank_of_isAsciiAlphanumeric (hc : isAsciiAlphanumeric c = true) : isBlank c = false := by
  rw [isAsciiAlphanumeric_iff] at hc
  apply isBlank_of_visible <;> omega

end EventRelay.Text
