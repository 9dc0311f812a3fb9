import EventRelay.Json.Token
import EventRelay.Proofs.Text.Decimal
import EventRelay.Proofs.Text.Utf8
import Mathlib.Data.List.TakeDrop

namespace EventRelay.Json

open Byte

/-- The bytes of a printed number. -/
def naturalBytes (n : Nat) : List UInt8 :=
  Text.Utf8.encode (Text.natText n).toList

theorem toNat_of_isDigit {c : Char} (hdigit : c.isDigit = true) :
    48 ≤ c.toNat ∧ c.toNat ≤ 57 := by
  simp only [Char.isDigit, Bool.and_eq_true, decide_eq_true_eq, ge_iff_le,
    UInt32.le_iff_toNat_le] at hdigit
  exact hdigit

theorem utf8EncodeChar_of_isDigit {c : Char} (hdigit : c.isDigit = true) :
    String.utf8EncodeChar c = [c.toNat.toUInt8] := by
  obtain ⟨-, hle⟩ := toNat_of_isDigit hdigit
  exact Text.Utf8.utf8EncodeChar_of_ascii (by omega)

theorem naturalBytes_eq_map (n : Nat) :
    naturalBytes n = (Nat.toDigits 10 n).map fun c => c.toNat.toUInt8 := by
  have hdigits : ∀ c ∈ Nat.toDigits 10 n, c.isDigit = true :=
    fun c hmem => Text.isDigit_of_mem_natText (n := n) (by simpa using hmem)
  rw [naturalBytes, Text.toList_natText, Text.Utf8.encode]
  generalize Nat.toDigits 10 n = digits at hdigits
  induction digits with
  | nil => rfl
  | cons c rest ih =>
    obtain ⟨hc, hrest⟩ := List.forall_mem_cons.1 hdigits
    rw [List.flatMap_cons, utf8EncodeChar_of_isDigit hc, ih hrest]
    rfl

theorem digitValue_of_isDigit {c : Char} (hdigit : c.isDigit = true) :
    isDigit c.toNat.toUInt8 = true ∧ digitValue c.toNat.toUInt8 = c.toNat - 48 := by
  obtain ⟨hge, hle⟩ := toNat_of_isDigit hdigit
  have hbyte : c.toNat.toUInt8.toNat = c.toNat :=
    UInt8.toNat_ofNat_of_lt' (by simp [UInt8.size]; omega)
  simp only [isDigit, digitValue, hbyte, Bool.and_eq_true, decide_eq_true_eq, UInt8.le_iff_toNat_le]
  exact ⟨⟨hge, hle⟩, trivial⟩

theorem ne_of_isDigit {b other : UInt8} (hdigit : isDigit b = true) (hother : isDigit other = false) :
    b ≠ other := by
  rintro rfl
  rw [hdigit] at hother
  cases hother

theorem isDigit_of_mem_naturalBytes {n : Nat} {b : UInt8} (hmem : b ∈ naturalBytes n) :
    isDigit b = true := by
  rw [naturalBytes_eq_map] at hmem
  obtain ⟨c, hc, rfl⟩ := List.mem_map.1 hmem
  exact (digitValue_of_isDigit (Nat.isDigit_of_mem_toDigits (by decide) (by decide) hc)).1

theorem digitsValue_naturalBytes (n : Nat) : digitsValue (naturalBytes n) = n := by
  have hdigits : ∀ c ∈ Nat.toDigits 10 n, c.isDigit = true :=
    fun c hmem => Nat.isDigit_of_mem_toDigits (by decide) (by decide) hmem
  have hfold (start : Nat) (digits : List Char) (hall : ∀ c ∈ digits, c.isDigit = true) :
      (digits.map fun c => c.toNat.toUInt8).foldl (fun value digit => 10 * value + digitValue digit)
        start = Nat.ofDigitChars 10 digits start := by
    induction digits generalizing start with
    | nil => simp
    | cons c rest ih =>
      obtain ⟨hc, hrest⟩ := List.forall_mem_cons.1 hall
      rw [List.map_cons, List.foldl_cons, (digitValue_of_isDigit hc).2, ih _ hrest,
        Nat.ofDigitChars_cons]
      rfl
  rw [digitsValue, naturalBytes_eq_map, hfold 0 _ hdigits, Nat.ofDigitChars_ten_toDigits]

theorem naturalBytes_ne_nil (n : Nat) : naturalBytes n ≠ [] := by
  simp [naturalBytes_eq_map]

/-- A printed number has no zero in front unless it is zero. -/
theorem isWhole_naturalBytes (n : Nat) : isWhole (naturalBytes n) = true := by
  rw [naturalBytes_eq_map]
  obtain rfl | hpositive := Nat.eq_zero_or_pos n
  · simp [isWhole]
  · have hhead := Text.head?_toDigits_ne_zero hpositive
    have hdigits : ∀ c ∈ Nat.toDigits 10 n, c.isDigit = true :=
      fun c hmem => Nat.isDigit_of_mem_toDigits (by decide) (by decide) hmem
    obtain ⟨c, rest, hcons⟩ := List.exists_cons_of_ne_nil (Nat.toDigits_ne_nil (n := n) (b := 10))
    rw [hcons] at hhead hdigits ⊢
    cases rest with
    | nil => rfl
    | cons d rest =>
      simp only [List.map_cons, isWhole, bne_iff_ne]
      intro hzero
      obtain ⟨-, hle⟩ := toNat_of_isDigit (hdigits c List.mem_cons_self)
      have hbyte : c.toNat.toUInt8.toNat = c.toNat :=
        UInt8.toNat_ofNat_of_lt' (by simp [UInt8.size]; omega)
      have hvalue : c.toNat = '0'.toNat := hbyte.symm.trans (congrArg UInt8.toNat hzero)
      exact hhead (congrArg some (Char.toNat_inj.1 hvalue))

/-- Nothing follows a number without point and exponent that could belong to it. -/
def EndsNumber (rest : List UInt8) : Prop :=
  ∀ b ∈ rest.head?, isDigit b = false ∧ b ≠ point ∧ isExponentMark b = false

theorem endsNumber_nil : EndsNumber [] := by
  simp [EndsNumber]

theorem endsNumber_cons {b : UInt8} (hdigit : isDigit b = false) (hpoint : b ≠ point)
    (hmark : isExponentMark b = false) (rest : List UInt8) : EndsNumber (b :: rest) := by
  simp [EndsNumber, hdigit, hpoint, hmark]

theorem EndsNumber.span_eq {rest : List UInt8} (hends : EndsNumber rest) :
    rest.takeWhile isDigit = [] ∧ rest.dropWhile isDigit = rest := by
  cases rest with
  | nil => exact ⟨rfl, rfl⟩
  | cons b rest => simp [(hends b rfl).1]

theorem EndsNumber.scanFraction_eq {rest : List UInt8} (hends : EndsNumber rest) :
    scanFraction rest = .ok (none, rest) := by
  cases rest with
  | nil => rfl
  | cons b rest => simp [scanFraction, (hends b rfl).2.1]

theorem EndsNumber.scanExponent_eq {rest : List UInt8} (hends : EndsNumber rest) :
    scanExponent rest = .ok (none, rest) := by
  cases rest with
  | nil => rfl
  | cons b rest => simp [scanExponent, (hends b rfl).2.2]

/-- A number that was printed is read back in full, whatever follows that cannot belong to it. -/
theorem scanNumber_naturalBytes (n : Nat) {rest : List UInt8} (hends : EndsNumber rest) :
    scanNumber (naturalBytes n ++ rest) =
      (.numeral ⟨false, naturalBytes n, none, none⟩, rest) := by
  have hspan : (naturalBytes n ++ rest).span isDigit = (naturalBytes n, rest) := by
    obtain ⟨htake, hdrop⟩ := hends.span_eq
    rw [List.span_eq_takeWhile_dropWhile, List.takeWhile_append_of_pos,
      List.dropWhile_append_of_pos, htake, hdrop, List.append_nil]
    · exact fun _ => isDigit_of_mem_naturalBytes
    · exact fun _ => isDigit_of_mem_naturalBytes
  have hsign : scanSign (· == minus) (naturalBytes n ++ rest) = (false, naturalBytes n ++ rest) := by
    obtain ⟨first, digits, hbytes⟩ := List.exists_cons_of_ne_nil (naturalBytes_ne_nil n)
    have hfirst : isDigit first = true := isDigit_of_mem_naturalBytes (n := n) (by simp [hbytes])
    have hminus : first ≠ minus := ne_of_isDigit hfirst (by decide)
    simp [hbytes, scanSign, hminus]
  have hnumeral : scanNumeral (naturalBytes n ++ rest) =
      .ok (⟨false, naturalBytes n, none, none⟩, rest) := by
    simp only [scanNumeral, hsign, hspan, isWhole_naturalBytes, hends.scanFraction_eq, Bool.not_true,
      Bool.false_eq_true, if_false]
    change (scanExponent rest).bind _ = _
    rw [hends.scanExponent_eq]
    rfl
  rw [scanNumber, hnumeral]

/-- What is left of a number when its last digits are missing is a smaller number. -/
theorem exists_naturalBytes_of_isPrefix {n : Nat} {part : List UInt8} (hpart : part <+: naturalBytes n)
    (hne : part ≠ []) : ∃ m ≤ n, part = naturalBytes m := by
  induction n using Nat.strongRecOn with
  | ind n ih =>
    by_cases hsmall : n < 10
    · refine ⟨n, Nat.le_refl n, ?_⟩
      rw [naturalBytes_eq_map, Nat.toDigits_of_lt_base hsmall] at hpart ⊢
      obtain hnone | ⟨rest, heq, hrest⟩ := List.prefix_cons_iff.1 hpart
      · exact absurd hnone hne
      · rw [heq, List.prefix_nil.1 hrest]
        rfl
    · have hdigits : naturalBytes n =
          naturalBytes (n / 10) ++ [(Nat.digitChar (n % 10)).toNat.toUInt8] := by
        rw [naturalBytes_eq_map, naturalBytes_eq_map,
          Nat.toDigits_of_base_le (by decide) (Nat.le_of_not_lt hsmall), List.map_append]
        rfl
      rw [hdigits, List.prefix_concat_iff] at hpart
      obtain hwhole | hshorter := hpart
      · exact ⟨n, Nat.le_refl n, hwhole.trans hdigits.symm⟩
      · obtain ⟨m, hle, heq⟩ := ih (n / 10) (by omega) hshorter
        exact ⟨m, Nat.le_trans hle (Nat.div_le_self n 10), heq⟩

/-- A byte that stands for itself between two quotes. -/
def IsPlain (b : UInt8) : Prop :=
  b ≠ quote ∧ b ≠ backslash ∧ ¬ b < 0x20

theorem scanString_plain {text : List UInt8} (hplain : ∀ b ∈ text, IsPlain b)
    (read rest : List UInt8) :
    scanString read (text ++ quote :: rest) = (⟨read.reverse ++ text, none⟩, rest) := by
  induction text generalizing read with
  | nil =>
    rw [List.nil_append, scanString.eq_def, List.append_nil]
    exact if_pos rfl
  | cons b text ih =>
    obtain ⟨⟨hquote, hbackslash, hcontrol⟩, hrest⟩ := List.forall_mem_cons.1 hplain
    rw [List.cons_append, scanString.eq_def]
    dsimp only
    rw [if_neg hquote, if_neg hcontrol, if_pos hbackslash, ih hrest]
    simp

/-- A string of which the closing quote is missing takes all that is left. -/
theorem scanString_unclosed {text : List UInt8} (hplain : ∀ b ∈ text, IsPlain b)
    (read : List UInt8) :
    scanString read text = (⟨read.reverse ++ text, some .truncated⟩, []) := by
  induction text generalizing read with
  | nil => rw [scanString.eq_def, List.append_nil]; rfl
  | cons b text ih =>
    obtain ⟨⟨hquote, hbackslash, hcontrol⟩, hrest⟩ := List.forall_mem_cons.1 hplain
    rw [scanString.eq_def]
    dsimp only
    rw [if_neg hquote, if_neg hcontrol, if_pos hbackslash, ih hrest]
    simp

theorem unescape_plain {text : List UInt8} (hplain : ∀ b ∈ text, IsPlain b) (atEnd : Fault) :
    unescape atEnd text = .ok text := by
  induction text with
  | nil => rw [unescape.eq_def]
  | cons b text ih =>
    obtain ⟨⟨-, hbackslash, -⟩, hrest⟩ := List.forall_mem_cons.1 hplain
    rw [unescape.eq_def]
    dsimp only
    rw [if_pos hbackslash, ih hrest]
    rfl

theorem scanTokens_nil (fuel : Nat) (read : List Token) : scanTokens fuel read [] = read.reverse := by
  cases fuel <;> rfl

theorem scanTokens_cons {b : UInt8} (hblank : isBlank b = false) (fuel : Nat) (read : List Token)
    (rest : List UInt8) :
    scanTokens (fuel + 1) read (b :: rest) =
      scanTokens fuel ((scanToken b rest).1 :: read) (scanToken b rest).2 := by
  rw [scanTokens, if_neg (by simp [hblank])]

theorem scanToken_quote (rest : List UInt8) :
    scanToken quote rest = (.string (scanString [] rest).1, (scanString [] rest).2) :=
  rfl

theorem scanToken_of_isDigit {b : UInt8} (hdigit : isDigit b = true) (rest : List UInt8) :
    scanToken b rest = (.number (scanNumber (b :: rest)).1, (scanNumber (b :: rest)).2) := by
  have hne {other : UInt8} (hother : isDigit other = false) : b ≠ other :=
    ne_of_isDigit hdigit hother
  rw [scanToken, if_neg (hne rfl), if_neg (hne rfl), if_neg (hne rfl), if_neg (hne rfl),
    if_neg (hne rfl), if_neg (hne rfl), if_neg (hne rfl), if_pos (by simp [hdigit])]

theorem isBlank_of_isDigit {b : UInt8} (hdigit : isDigit b = true) : isBlank b = false := by
  have hne (other : UInt8) (hother : isDigit other = false) : b ≠ other :=
    ne_of_isDigit hdigit hother
  simp [isBlank, hne 0x20 rfl, hne 0x09 rfl, hne 0x0A rfl, hne 0x0D rfl]

theorem scanTokens_naturalBytes (fuel : Nat) (read : List Token) (n : Nat) {rest : List UInt8}
    (hends : EndsNumber rest) :
    scanTokens (fuel + 1) read (naturalBytes n ++ rest) =
      scanTokens fuel (.number (.numeral ⟨false, naturalBytes n, none, none⟩) :: read) rest := by
  have hnumber := scanNumber_naturalBytes n hends
  obtain ⟨digit, digits, hdigits⟩ := List.exists_cons_of_ne_nil (naturalBytes_ne_nil n)
  have hdigit : isDigit digit = true := isDigit_of_mem_naturalBytes (n := n) (by simp [hdigits])
  rw [hdigits, List.cons_append] at hnumber ⊢
  rw [scanTokens_cons (isBlank_of_isDigit hdigit), scanToken_of_isDigit hdigit, hnumber]

end EventRelay.Json
