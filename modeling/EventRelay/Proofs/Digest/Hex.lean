import EventRelay.Digest.Hex
import EventRelay.Proofs.Text.CodePoint
import Mathlib.Tactic.SplitIfs

namespace EventRelay.Digest.Hex

open Text

/-- One of the sixteen digits, of either case. -/
def IsDigit (c : Char) : Prop :=
  '0' ≤ c ∧ c ≤ '9' ∨ 'a' ≤ c ∧ c ≤ 'f' ∨ 'A' ≤ c ∧ c ≤ 'F'

variable {text : List Char} {bytes : List UInt8} {c : Char} {n : Nat}

theorem value?_digit (hn : n < 16) : value? (digit n) = some n := by
  have hall : ∀ n < 16, value? (digit n) = some n := by decide
  exact hall n hn

/-- Capitals have the values of their small letters. -/
theorem value?_asciiLower (c : Char) : value? (asciiLower c) = value? c := by
  by_cases hupper : isAsciiUpper c = true
  · have hall : ∀ code < 91, value? (asciiLower (Char.ofNat code)) = value? (Char.ofNat code) := by
      decide
    have hcode := (isAsciiUpper_iff.1 hupper).2
    simpa using hall c.toNat (by omega)
  · rw [asciiLower, if_neg hupper]

theorem value?_eq_some_iff : value? c = some n ↔ n < 16 ∧ asciiLower c = digit n := by
  constructor
  · intro hvalue
    unfold value? at hvalue
    split_ifs at hvalue with hdigit hsmall hcapital <;> cases hvalue
    · rw [isAsciiDigit_iff] at hdigit
      have hupper : ¬ isAsciiUpper c = true := by
        rw [isAsciiUpper_iff]
        omega
      have hcode : 48 + (c.toNat - 48) = c.toNat := by omega
      rw [asciiLower, if_neg hupper, digit, if_pos (by omega), hcode, Char.ofNat_toNat]
      exact ⟨by omega, rfl⟩
    · have hfirst : 97 ≤ c.toNat := hsmall.1
      have hlast : c.toNat ≤ 102 := hsmall.2
      have hupper : ¬ isAsciiUpper c = true := by
        rw [isAsciiUpper_iff]
        omega
      have hcode : 87 + (c.toNat - 87) = c.toNat := by omega
      rw [asciiLower, if_neg hupper, digit, if_neg (by omega), hcode, Char.ofNat_toNat]
      exact ⟨by omega, rfl⟩
    · have hfirst : 65 ≤ c.toNat := hcapital.1
      have hlast : c.toNat ≤ 70 := hcapital.2
      have hupper : isAsciiUpper c = true := isAsciiUpper_iff.2 (by omega)
      have hcode : 87 + (c.toNat - 55) = c.toNat + 32 := by omega
      rw [asciiLower, if_pos hupper, digit, if_neg (by omega), hcode]
      exact ⟨by omega, rfl⟩
  · rintro ⟨hn, hlower⟩
    rw [← value?_asciiLower, hlower]
    exact value?_digit hn

theorem encode_cons (byte : UInt8) (rest : List UInt8) :
    encode (byte :: rest) = digit (byte.toNat / 16) :: digit (byte.toNat % 16) :: encode rest :=
  rfl

/-- Digits of either case are read, and nothing but digits. -/
theorem decode?_eq_some_iff : decode? text = some bytes ↔ text.map asciiLower = encode bytes := by
  induction text using decode?.induct generalizing bytes with
  | case1 => cases bytes <;> simp [decode?, encode]
  | case2 c => cases bytes <;> simp [decode?, encode]
  | case3 high low rest ih =>
    simp only [decode?, Option.bind_eq_bind, Option.bind_eq_some_iff]
    constructor
    · rintro ⟨first, hhigh, second, hlow, tail, htail, heq⟩
      cases heq
      obtain ⟨hfirst, hhigh⟩ := value?_eq_some_iff.1 hhigh
      obtain ⟨hsecond, hlow⟩ := value?_eq_some_iff.1 hlow
      have hbyte : (first * 16 + second).toUInt8.toNat = first * 16 + second :=
        UInt8.toNat_ofNat_of_lt (show first * 16 + second < 256 by omega)
      have hquotient : (first * 16 + second) / 16 = first := by omega
      have hremainder : (first * 16 + second) % 16 = second := by omega
      rw [List.map_cons, List.map_cons, encode_cons, hbyte, hquotient, hremainder, hhigh, hlow,
        ih.1 htail]
    · intro hmap
      cases bytes with
      | nil => cases hmap
      | cons byte tail =>
        rw [List.map_cons, List.map_cons, encode_cons, List.cons.injEq, List.cons.injEq] at hmap
        obtain ⟨hhigh, hlow, htail⟩ := hmap
        have hbyte := byte.toNat_lt
        have hwhole : byte.toNat / 16 * 16 + byte.toNat % 16 = byte.toNat := by omega
        refine ⟨_, value?_eq_some_iff.2 ⟨by omega, hhigh⟩, _,
          value?_eq_some_iff.2 ⟨by omega, hlow⟩, tail, ih.2 htail, ?_⟩
        rw [hwhole]
        exact congrArg some (congrArg (· :: tail) UInt8.ofNat_toNat)

/-- A text spells bytes: each by two digits, of either case. -/
inductive Spells : List Char → List UInt8 → Prop
  | nil : Spells [] []
  | cons {high low : Char} {byte : UInt8} {rest : List Char} {bytes : List UInt8}
      (hhigh : "0123456789abcdef".toList[byte.toNat / 16]? = some high.toLower)
      (hlow : "0123456789abcdef".toList[byte.toNat % 16]? = some low.toLower)
      (hrest : Spells rest bytes) : Spells (high :: low :: rest) (byte :: bytes)

theorem getElem?_digits_eq_some_iff (hn : n < 16) :
    "0123456789abcdef".toList[n]? = some c.toLower ↔ asciiLower c = digit n := by
  have hall : ∀ n < 16, "0123456789abcdef".toList[n]? = some (digit n) := by decide
  rw [hall n hn, Option.some.injEq, asciiLower_eq_toLower, eq_comm]

theorem spells_iff : Spells text bytes ↔ text.map asciiLower = encode bytes := by
  constructor
  · intro hspells
    induction hspells with
    | nil => rfl
    | @cons high low byte rest bytes hhigh hlow hrest ih =>
      have hbyte := byte.toNat_lt
      rw [List.map_cons, List.map_cons, encode_cons,
        (getElem?_digits_eq_some_iff (by omega)).1 hhigh,
        (getElem?_digits_eq_some_iff (by omega)).1 hlow, ih]
  · intro hmap
    induction bytes generalizing text with
    | nil => rw [List.map_eq_nil_iff.1 hmap]; exact .nil
    | cons byte bytes ih =>
      have hbyte := byte.toNat_lt
      rw [encode_cons] at hmap
      obtain ⟨high, _, rfl, hhigh, hmap⟩ := List.map_eq_cons_iff.1 hmap
      obtain ⟨low, rest, rfl, hlow, hmap⟩ := List.map_eq_cons_iff.1 hmap
      exact .cons ((getElem?_digits_eq_some_iff (by omega)).2 hhigh)
        ((getElem?_digits_eq_some_iff (by omega)).2 hlow) (ih hmap)

theorem length_encode (bytes : List UInt8) : (encode bytes).length = 2 * bytes.length := by
  induction bytes with
  | nil => rfl
  | cons byte rest ih =>
    rw [encode_cons, List.length_cons, List.length_cons, List.length_cons, ih]
    omega

theorem exists_digit_of_mem_encode (hmem : c ∈ encode bytes) : ∃ n < 16, c = digit n := by
  obtain ⟨byte, -, hbyte⟩ := List.mem_flatMap.1 hmem
  have hlt := byte.toNat_lt
  obtain rfl | rfl : c = digit (byte.toNat / 16) ∨ c = digit (byte.toNat % 16) := by
    simpa using hbyte
  · exact ⟨_, by omega, rfl⟩
  · exact ⟨_, by omega, rfl⟩

theorem asciiLower_digit (hn : n < 16) : asciiLower (digit n) = digit n :=
  (value?_eq_some_iff.1 (value?_digit hn)).2

theorem map_asciiLower_encode (bytes : List UInt8) :
    (encode bytes).map asciiLower = encode bytes := by
  have hdigit : ∀ c ∈ encode bytes, asciiLower c = id c := by
    intro c hc
    obtain ⟨n, hn, rfl⟩ := exists_digit_of_mem_encode hc
    exact asciiLower_digit hn
  rw [List.map_congr_left hdigit, List.map_id]

theorem isDigit_of_value? (hvalue : value? c = some n) : IsDigit c := by
  unfold value? at hvalue
  split_ifs at hvalue with hdigit hsmall hcapital
  · rw [isAsciiDigit, Bool.and_eq_true, decide_eq_true_eq, decide_eq_true_eq] at hdigit
    exact .inl hdigit
  · exact .inr (.inl hsmall)
  · exact .inr (.inr hcapital)

/-- A text that spells bytes up to the case of its digits holds nothing else. -/
theorem isDigit_of_map_eq_encode (hmap : text.map asciiLower = encode bytes) :
    ∀ c ∈ text, IsDigit c := by
  intro c hc
  have hlower : asciiLower c ∈ encode bytes := hmap ▸ List.mem_map_of_mem hc
  obtain ⟨n, hn, hdigit⟩ := exists_digit_of_mem_encode hlower
  exact isDigit_of_value? (value?_eq_some_iff.2 ⟨hn, hdigit⟩)

theorem isBlank_digit (hn : n < 16) : isBlank (digit n) = false := by
  have hall : ∀ n < 16, isBlank (digit n) = false := by decide
  exact hall n hn

end EventRelay.Digest.Hex
