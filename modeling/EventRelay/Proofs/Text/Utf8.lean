import EventRelay.Text.Utf8
import Mathlib.Logic.Function.Basic

namespace EventRelay.Text.Utf8

/-- No two texts have the same bytes. -/
theorem encode_injective : Function.Injective encode := by
  intro first second hbytes
  have hencoded : first.utf8Encode = second.utf8Encode := congrArg List.toByteArray hbytes
  have hdecoded := congrArg ByteArray.utf8Decode? hencoded
  rw [List.utf8Decode?_utf8Encode, List.utf8Decode?_utf8Encode] at hdecoded
  simpa using hdecoded

theorem encode_append (first second : List Char) :
    encode (first ++ second) = encode first ++ encode second :=
  List.flatMap_append

theorem encode_singleton (c : Char) : encode [c] = String.utf8EncodeChar c :=
  List.flatMap_singleton ..

/-- A character of ASCII has one byte. -/
theorem utf8EncodeChar_of_ascii {c : Char} (hascii : c.toNat < 128) :
    String.utf8EncodeChar c = [c.toNat.toUInt8] := by
  have hle : c.val.toNat ≤ 127 := Nat.le_of_lt_succ hascii
  simp only [String.utf8EncodeChar, if_pos hle]
  rfl

/-- No byte of any other character is one of ASCII. -/
theorem le_toNat_of_mem_utf8EncodeChar {c : Char} {b : UInt8} (hbeyond : 128 ≤ c.toNat)
    (hmem : b ∈ String.utf8EncodeChar c) : 128 ≤ b.toNat := by
  have hbyte (bits width high : Nat) (hwidth : 0 < width) (hhigh : 128 ≤ high)
      (hsum : high + width ≤ 256) : 128 ≤ (UInt8.ofNat (bits % width + high)).toNat := by
    have hlt := Nat.mod_lt bits hwidth
    rw [UInt8.toNat_ofNat_of_lt' (by simp only [UInt8.size]; omega)]
    omega
  have hgt : ¬ c.val.toNat ≤ 127 := Nat.not_le_of_gt hbeyond
  simp only [String.utf8EncodeChar, if_neg hgt] at hmem
  split at hmem
  case isTrue =>
    simp only [List.mem_cons, List.not_mem_nil, or_false] at hmem
    obtain rfl | rfl := hmem <;> exact hbyte _ _ _ (by decide) (by decide) (by decide)
  case isFalse =>
    split at hmem
    case isTrue =>
      simp only [List.mem_cons, List.not_mem_nil, or_false] at hmem
      obtain rfl | rfl | rfl := hmem <;> exact hbyte _ _ _ (by decide) (by decide) (by decide)
    case isFalse =>
      simp only [List.mem_cons, List.not_mem_nil, or_false] at hmem
      obtain rfl | rfl | rfl | rfl := hmem <;> exact hbyte _ _ _ (by decide) (by decide) (by decide)

theorem toNat_toUInt8_of_ascii {c : Char} (hascii : c.toNat < 128) : c.toNat.toUInt8.toNat = c.toNat :=
  UInt8.toNat_ofNat_of_lt' (by simp only [UInt8.size]; omega)

/-- The byte of a character of ASCII is found in no other character. -/
theorem mem_utf8EncodeChar_iff {c mark : Char} (hascii : mark.toNat < 128) :
    mark.toNat.toUInt8 ∈ String.utf8EncodeChar c ↔ c = mark := by
  constructor
  · intro hmem
    have hmark := toNat_toUInt8_of_ascii hascii
    have hc : c.toNat < 128 := by
      by_contra hbeyond
      have hle := le_toNat_of_mem_utf8EncodeChar (Nat.le_of_not_lt hbeyond) hmem
      omega
    rw [utf8EncodeChar_of_ascii hc, List.mem_singleton] at hmem
    rw [← Char.toNat_inj, ← toNat_toUInt8_of_ascii hc, ← hmem, hmark]
  · rintro rfl
    rw [utf8EncodeChar_of_ascii hascii]
    exact List.mem_singleton_self _

/-- A byte of ASCII stands for the character that has its number. -/
theorem utf8EncodeChar_ofNat {b : UInt8} (hascii : b.toNat < 128) :
    String.utf8EncodeChar (Char.ofNat b.toNat) = [b] := by
  have hvalid : b.toNat.isValidChar := .inl (by omega)
  have hval : (Char.ofNat b.toNat).toNat = b.toNat := by
    rw [Char.ofNat, dif_pos hvalid]
    rfl
  rw [utf8EncodeChar_of_ascii (by rwa [hval]), hval]
  exact congrArg (fun byte => [byte]) (UInt8.ofNat_toNat)

theorem encode_map_ofNat {bytes : List UInt8} (hascii : ∀ b ∈ bytes, b.toNat < 128) :
    encode (bytes.map fun b => Char.ofNat b.toNat) = bytes := by
  induction bytes with
  | nil => rfl
  | cons b rest ih =>
    obtain ⟨hb, hrest⟩ := List.forall_mem_cons.1 hascii
    have hencoded := ih hrest
    rw [encode] at hencoded
    rw [encode, List.map_cons, List.flatMap_cons, utf8EncodeChar_ofNat hb, hencoded]
    rfl

end EventRelay.Text.Utf8
