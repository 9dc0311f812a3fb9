import EventRelay.Json.Decoder
import EventRelay.Proofs.Except

namespace EventRelay.Json

/-- The number that digits write in decimal, byte by byte. -/
theorem digitsValue_eq (digits : List UInt8) :
    digitsValue digits = Nat.ofDigitChars 10 (digits.map fun b => Char.ofNat b.toNat) 0 := by
  have hfold (start : Nat) :
      digits.foldl (fun value digit => 10 * value + Byte.digitValue digit) start =
        Nat.ofDigitChars 10 (digits.map fun b => Char.ofNat b.toNat) start := by
    induction digits generalizing start with
    | nil => rfl
    | cons b rest ih =>
      have hchar : (Char.ofNat b.toNat).toNat = b.toNat := by
        rw [Char.ofNat, dif_pos (.inl (Nat.lt_trans b.toNat_lt (by decide)))]
        rfl
      rw [List.foldl_cons, ih, List.map_cons, Nat.ofDigitChars_cons, hchar]
      rfl
  exact hfold 0

theorem Numeral.natural?_eq_some_iff {numeral : Numeral} {n : Nat} :
    numeral.natural? = some n ↔
      ∃ digits, numeral = ⟨false, digits, none, none⟩ ∧ digitsValue digits = n := by
  obtain ⟨negative, whole, fraction?, exponent?⟩ := numeral
  cases negative <;> cases fraction? <;> cases exponent? <;> simp [natural?]

namespace Decoder

theorem natural_eq_ok_iff {limit n : Nat} {node : Node} : natural limit node = .ok n ↔
    n ≤ limit ∧ ∃ digits, node = .number (.numeral ⟨false, digits, none, none⟩) ∧
      digitsValue digits = n := by
  constructor
  · intro hread
    rw [natural.eq_def] at hread
    split at hread
    · split at hread
      · rename_i hnatural
        split at hread
        · rename_i hle
          obtain rfl := Except.ok.inj hread
          obtain ⟨digits, rfl, hvalue⟩ := Numeral.natural?_eq_some_iff.1 hnatural
          exact ⟨hle, digits, rfl, hvalue⟩
        · cases hread
      · cases hread
    · cases hread
  · rintro ⟨hle, digits, rfl, hvalue⟩
    rw [natural, Numeral.natural?_eq_some_iff.2 ⟨digits, rfl, hvalue⟩]
    exact if_pos hle

/-- A number of 64 bits is written by its digits alone, without sign, point and exponent. -/
theorem uint64_eq_ok_iff {node : Node} {n : UInt64} : uint64 node = .ok n ↔
    ∃ digits, node = .number (.numeral ⟨false, digits, none, none⟩) ∧
      Nat.ofDigitChars 10 (digits.map fun b => Char.ofNat b.toNat) 0 = n.toNat := by
  simp only [← digitsValue_eq]
  constructor
  · intro hread
    obtain ⟨value, hvalue, rfl⟩ := map_eq_ok.1 hread
    obtain ⟨hle, digits, rfl, hdigits⟩ := natural_eq_ok_iff.1 hvalue
    exact ⟨digits, rfl, hdigits.trans (UInt64.toNat_ofNat_of_lt' (Nat.lt_succ_of_le hle)).symm⟩
  · rintro ⟨digits, rfl, hvalue⟩
    have hle : n.toNat ≤ Text.maxUInt64 := Nat.le_of_lt_succ n.toNat_lt
    exact map_eq_ok.2 ⟨n.toNat, natural_eq_ok_iff.2 ⟨hle, digits, rfl, hvalue⟩, by simp⟩

end Decoder

end EventRelay.Json
