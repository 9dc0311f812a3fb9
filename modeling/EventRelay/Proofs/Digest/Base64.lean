import EventRelay.Digest.Base64
import EventRelay.Proofs.Text.CodePoint
import Mathlib.Control.Basic
import Mathlib.Data.Option.Basic
import Mathlib.Tactic.SplitIfs

namespace EventRelay.Digest.Base64

open Text

/-- The bytes that a text of digits spells. Three bytes take four digits; one or two bytes at the end take
as many digits as their bits need, and equals signs in place of the others. The bits of the last digit
that belong to no byte are zero. -/
inductive Spells : List Char → List UInt8 → Prop
  | nil : Spells [] []
  | one {a b : Char} {high low : Nat} (ha : value? a = some high) (hb : value? b = some low)
      (hzero : low % 16 = 0) : Spells [a, b, '=', '='] [(high * 4 + low / 16).toUInt8]
  | two {a b c : Char} {high middle low : Nat} (ha : value? a = some high)
      (hb : value? b = some middle) (hc : value? c = some low) (hzero : low % 4 = 0) :
      Spells [a, b, c, '='] [(high * 4 + middle / 16).toUInt8, (middle % 16 * 16 + low / 4).toUInt8]
  | three {a b c d : Char} {high middle low last : Nat} {rest : List Char} {bytes : List UInt8}
      (ha : value? a = some high) (hb : value? b = some middle) (hc : value? c = some low)
      (hd : value? d = some last) (hrest : Spells rest bytes) :
      Spells (a :: b :: c :: d :: rest)
        ((high * 4 + middle / 16).toUInt8 :: (middle % 16 * 16 + low / 4).toUInt8 ::
          (low % 4 * 64 + last).toUInt8 :: bytes)

variable {text : List Char} {bytes : List UInt8} {c : Char} {n : Nat}

theorem value?_digit (hn : n < 64) : value? (digit n) = some n := by
  have hall : ∀ n < 64, value? (digit n) = some n := by decide
  exact hall n hn

theorem value?_eq_some_iff : value? c = some n ↔ n < 64 ∧ c = digit n := by
  constructor
  · intro hvalue
    unfold value? at hvalue
    split_ifs at hvalue with hupper hlower hdigit hplus hslash <;> cases hvalue
    · rw [isAsciiUpper_iff] at hupper
      have hcode : 65 + (c.toNat - 65) = c.toNat := by omega
      rw [digit, if_pos (by omega), hcode, Char.ofNat_toNat]
      exact ⟨by omega, rfl⟩
    · rw [isAsciiLower_iff] at hlower
      have hcode : 71 + (c.toNat - 71) = c.toNat := by omega
      rw [digit, if_neg (by omega), if_pos (by omega), hcode, Char.ofNat_toNat]
      exact ⟨by omega, rfl⟩
    · rw [isAsciiDigit_iff] at hdigit
      have hcode : c.toNat + 4 - 4 = c.toNat := by omega
      rw [digit, if_neg (by omega), if_neg (by omega), if_pos (by omega), hcode, Char.ofNat_toNat]
      exact ⟨by omega, rfl⟩
    · exact ⟨by decide, hplus⟩
    · exact ⟨by decide, hslash⟩
  · rintro ⟨hn, rfl⟩
    exact value?_digit hn

theorem ne_equals_of_value? (hvalue : value? c = some n) : c ≠ '=' := by
  rintro rfl
  have hnone : value? '=' = none := by decide
  rw [hnone] at hvalue
  cases hvalue

theorem toNat_toUInt8 (hn : n < 256) : n.toUInt8.toNat = n :=
  UInt8.toNat_ofNat_of_lt hn

theorem toUInt8_eq (byte : UInt8) (hn : n = byte.toNat) : n.toUInt8 = byte := by
  rw [hn]
  exact UInt8.ofNat_toNat

theorem Spells.decode?_eq (hspells : Spells text bytes) : decode? text = some bytes := by
  induction hspells with
  | nil => rfl
  | one ha hb hzero => simp [decode?, ha, hb, hzero, guard_true]
  | two ha hb hc hzero => simp [decode?, ha, hb, hc, hzero, ne_equals_of_value? hc, guard_true]
  | three ha hb hc hd hrest ih =>
    simp [decode?, ha, hb, hc, hd, ih, ne_equals_of_value? hc, ne_equals_of_value? hd]

theorem spells_of_decode? (hdecode : decode? text = some bytes) : Spells text bytes := by
  induction text using decode?.induct generalizing bytes with
  | case1 =>
    cases hdecode
    exact .nil
  | case2 a b c d rest ih =>
    simp only [decode?, Option.bind_eq_bind, Option.bind_eq_some_iff] at hdecode
    obtain ⟨high, ha, middle, hb, hdecode⟩ := hdecode
    -- The third place is asked for an equals sign before the fourth: with one there the group ends.
    by_cases hc : c = '='
    · rw [if_pos hc] at hdecode
      obtain ⟨⟨⟩, hguard, heq⟩ := Option.bind_eq_some_iff.1 hdecode
      obtain ⟨rfl, rfl, hzero⟩ := (Option.guard_eq_some' ()).1 hguard
      cases heq
      subst hc
      exact .one ha hb hzero
    rw [if_neg hc] at hdecode
    obtain ⟨low, hlow, hdecode⟩ := Option.bind_eq_some_iff.1 hdecode
    by_cases hd : d = '='
    · rw [if_pos hd] at hdecode
      obtain ⟨⟨⟩, hguard, heq⟩ := Option.bind_eq_some_iff.1 hdecode
      obtain ⟨rfl, hzero⟩ := (Option.guard_eq_some' ()).1 hguard
      cases heq
      subst hd
      exact .two ha hb hlow hzero
    · rw [if_neg hd] at hdecode
      obtain ⟨last, hlast, hdecode⟩ := Option.bind_eq_some_iff.1 hdecode
      obtain ⟨tail, htail, heq⟩ := Option.bind_eq_some_iff.1 hdecode
      cases heq
      exact .three ha hb hlow hlast (ih htail)
  | case3 text hnil hfour =>
    rw [decode?] at hdecode
    · cases hdecode
    · exact hnil
    · exact hfour

section Digits

variable {high middle low : Nat}

theorem high_of_bytes (hmiddle : middle < 64) : (high * 4 + middle / 16) / 4 = high := by
  omega

theorem middle_of_bytes (hmiddle : middle < 64) (hlow : low < 64) :
    (high * 4 + middle / 16) % 4 * 16 + (middle % 16 * 16 + low / 4) / 16 = middle := by
  omega

end Digits

/-- No bytes are spelled in two ways. -/
theorem Spells.eq_encode (hspells : Spells text bytes) : text = encode bytes := by
  induction hspells with
  | nil => rfl
  | @one a b high low ha hb hzero =>
    obtain ⟨hhigh, rfl⟩ := value?_eq_some_iff.1 ha
    obtain ⟨hlow, rfl⟩ := value?_eq_some_iff.1 hb
    -- Without the zero bits, digits that differ in them alone would spell the same byte.
    have hsecond : (high * 4 + low / 16) % 4 * 16 = low := by omega
    rw [encode, toNat_toUInt8 (by omega), high_of_bytes hlow, hsecond]
  | @two a b c high middle low ha hb hc hzero =>
    obtain ⟨hhigh, rfl⟩ := value?_eq_some_iff.1 ha
    obtain ⟨hmiddle, rfl⟩ := value?_eq_some_iff.1 hb
    obtain ⟨hlow, rfl⟩ := value?_eq_some_iff.1 hc
    have hthird : (middle % 16 * 16 + low / 4) % 16 * 4 = low := by omega
    rw [encode, toNat_toUInt8 (by omega), toNat_toUInt8 (by omega), high_of_bytes hmiddle,
      middle_of_bytes hmiddle hlow, hthird]
  | @three a b c d high middle low last rest bytes ha hb hc hd hrest ih =>
    obtain ⟨hhigh, rfl⟩ := value?_eq_some_iff.1 ha
    obtain ⟨hmiddle, rfl⟩ := value?_eq_some_iff.1 hb
    obtain ⟨hlow, rfl⟩ := value?_eq_some_iff.1 hc
    obtain ⟨hlast, rfl⟩ := value?_eq_some_iff.1 hd
    have hthird : (middle % 16 * 16 + low / 4) % 16 * 4 + (low % 4 * 64 + last) / 64 = low := by omega
    have hfourth : (low % 4 * 64 + last) % 64 = last := by omega
    rw [encode, toNat_toUInt8 (by omega), toNat_toUInt8 (by omega), toNat_toUInt8 (by omega),
      high_of_bytes hmiddle, middle_of_bytes hmiddle hlow, hthird, hfourth, ← ih]

theorem spells_encode (bytes : List UInt8) : Spells (encode bytes) bytes := by
  induction bytes using encode.induct with
  | case1 => exact .nil
  | case2 a =>
    have ha := a.toNat_lt
    have hspells := Spells.one (value?_digit (show a.toNat / 4 < 64 by omega))
      (value?_digit (show a.toNat % 4 * 16 < 64 by omega)) (by omega)
    rwa [toUInt8_eq a (by omega)] at hspells
  | case3 a b =>
    have ha := a.toNat_lt
    have hb := b.toNat_lt
    have hspells := Spells.two (value?_digit (show a.toNat / 4 < 64 by omega))
      (value?_digit (show a.toNat % 4 * 16 + b.toNat / 16 < 64 by omega))
      (value?_digit (show b.toNat % 16 * 4 < 64 by omega)) (by omega)
    rwa [toUInt8_eq a (by omega), toUInt8_eq b (by omega)] at hspells
  | case4 a b c rest ih =>
    have ha := a.toNat_lt
    have hb := b.toNat_lt
    have hc := c.toNat_lt
    have hspells := Spells.three (value?_digit (show a.toNat / 4 < 64 by omega))
      (value?_digit (show a.toNat % 4 * 16 + b.toNat / 16 < 64 by omega))
      (value?_digit (show b.toNat % 16 * 4 + c.toNat / 64 < 64 by omega))
      (value?_digit (show c.toNat % 64 < 64 by omega)) ih
    rwa [toUInt8_eq a (by omega), toUInt8_eq b (by omega), toUInt8_eq c (by omega)] at hspells

theorem spells_iff : Spells text bytes ↔ text = encode bytes := by
  constructor
  · exact Spells.eq_encode
  · rintro rfl
    exact spells_encode bytes

theorem decode?_eq_some_iff : decode? text = some bytes ↔ text = encode bytes := by
  rw [← spells_iff]
  constructor
  · exact spells_of_decode?
  · exact Spells.decode?_eq

theorem Spells.length_eq (hspells : Spells text bytes) : text.length = (bytes.length + 2) / 3 * 4 := by
  induction hspells with
  | nil | one | two => simp
  | three _ _ _ _ _ ih =>
    simp only [List.length_cons]
    omega

theorem Spells.isDigit_or_eq (hspells : Spells text bytes) :
    ∀ c ∈ text, (∃ n, value? c = some n) ∨ c = '=' := by
  induction hspells with
  | nil => simp
  | one ha hb => simp [ha, hb]
  | two ha hb hc => simp [ha, hb, hc]
  | three ha hb hc hd _ ih => simpa [ha, hb, hc, hd] using ih

theorem isDigit_of_value? (hvalue : value? c = some n) :
    isAsciiAlphanumeric c = true ∨ c = '+' ∨ c = '/' := by
  unfold value? at hvalue
  split_ifs at hvalue with hupper hlower hdigit hplus hslash
  · simp [isAsciiAlphanumeric, hupper]
  · simp [isAsciiAlphanumeric, hlower]
  · simp [isAsciiAlphanumeric, hdigit]
  · exact .inr (.inl hplus)
  · exact .inr (.inr hslash)

end EventRelay.Digest.Base64
