import EventRelay.Proofs.Text.Pairs
import EventRelay.Proofs.Text.Utf8

namespace EventRelay.Text

open Utf8

variable {text front back : List Char} {mark : Char} {n : Nat}

theorem byteLength_append (front back : List Char) :
    byteLength (front ++ back) = byteLength front + byteLength back := by
  induction front with
  | nil => rw [List.nil_append, byteLength, Nat.zero_add]
  | cons c front ih => rw [List.cons_append, byteLength, ih, byteLength, Nat.add_assoc]

theorem length_encode (text : List Char) : (encode text).length = byteLength text := by
  induction text with
  | nil => rfl
  | cons c text ih =>
    rw [← List.singleton_append, encode_append, List.length_append, ih, encode_singleton,
      String.length_utf8EncodeChar, List.singleton_append, byteLength]

/-- What stands before and behind a place that is given in bytes. There is nothing to be had at a place
inside a character or past the end. -/
def splitAtByte? : List Char → Nat → Option (List Char × List Char)
  | text, 0 => some ([], text)
  | [], _ + 1 => none
  | c :: text, n + 1 =>
    if c.utf8Size ≤ n + 1 then
      (splitAtByte? text (n + 1 - c.utf8Size)).map fun parts => (c :: parts.1, parts.2)
    else none

theorem splitAtByte?_append (front back : List Char) :
    splitAtByte? (front ++ back) (byteLength front) = some (front, back) := by
  induction front with
  | nil => cases back <;> rfl
  | cons c front ih =>
    obtain ⟨n, hn⟩ := Nat.exists_eq_add_one_of_ne_zero c.utf8Size_pos.ne'
    have hlength : byteLength (c :: front) = n + byteLength front + 1 := by
      rw [byteLength, hn]
      omega
    rw [hlength, List.cons_append, splitAtByte?, if_pos (by omega)]
    have hrest : n + byteLength front + 1 - c.utf8Size = byteLength front := by omega
    rw [hrest, ih]
    rfl

theorem splitAtByte?_eq_some_iff :
    splitAtByte? text n = some (front, back) ↔ text = front ++ back ∧ byteLength front = n := by
  constructor
  · intro hsplit
    fun_induction splitAtByte? text n generalizing front with
    | case1 text =>
      cases hsplit
      exact ⟨rfl, rfl⟩
    | case2 => cases hsplit
    | case3 c text n hle ih =>
      obtain ⟨⟨front, back⟩, hrest, heq⟩ := Option.map_eq_some_iff.1 hsplit
      cases heq
      obtain ⟨rfl, hlength⟩ := ih hrest
      refine ⟨rfl, ?_⟩
      rw [byteLength, hlength]
      omega
    | case4 => cases hsplit
  · rintro ⟨rfl, rfl⟩
    exact splitAtByte?_append front back

example : splitAtByte? ['\u00e9'] 1 = none := by
  decide

/-- A text has only one front of a length. -/
theorem append_inj_of_byteLength {front' back' : List Char} (htext : front ++ back = front' ++ back')
    (hlength : byteLength front = byteLength front') : front = front' ∧ back = back' := by
  have hsplit := splitAtByte?_append front back
  rw [htext, hlength, splitAtByte?_append] at hsplit
  cases hsplit
  exact ⟨rfl, rfl⟩

/-- The byte of a character of ASCII stands where the character does, and nowhere else. -/
theorem getElem?_encode_eq_some_iff (hascii : mark.toNat < 128) :
    (encode text)[n]? = some mark.toNat.toUInt8 ↔
      ∃ front back, text = front ++ mark :: back ∧ byteLength front = n := by
  constructor
  · intro hbyte
    induction text generalizing n with
    | nil => simp [encode] at hbyte
    | cons c text ih =>
      rw [← List.singleton_append, encode_append, encode_singleton] at hbyte
      by_cases hlt : n < (String.utf8EncodeChar c).length
      · rw [List.getElem?_append_left hlt] at hbyte
        obtain rfl := (mem_utf8EncodeChar_iff hascii).1 (List.mem_of_getElem? hbyte)
        rw [utf8EncodeChar_of_ascii hascii, List.length_singleton, Nat.lt_one_iff] at hlt
        exact ⟨[], text, rfl, hlt.symm⟩
      · rw [List.getElem?_append_right (Nat.le_of_not_lt hlt)] at hbyte
        obtain ⟨front, back, rfl, hlength⟩ := ih hbyte
        rw [String.length_utf8EncodeChar] at hlt hlength
        refine ⟨c :: front, back, rfl, ?_⟩
        rw [byteLength, hlength]
        omega
  · rintro ⟨front, back, rfl, rfl⟩
    rw [encode_append, ← length_encode, List.getElem?_append_right (Nat.le_refl _), Nat.sub_self,
      ← List.singleton_append, encode_append, encode_singleton, utf8EncodeChar_of_ascii hascii]
    rfl

/-- A character is doubled at a place that is given in bytes. -/
structure PairAt (mark : Char) (bytes : List UInt8) (n : Nat) : Prop where
  first : bytes[n]? = some mark.toNat.toUInt8
  second : bytes[n + 1]? = some mark.toNat.toUInt8

theorem pairAt_iff {bytes : List UInt8} : PairAt mark bytes n ↔
    bytes[n]? = some mark.toNat.toUInt8 ∧ bytes[n + 1]? = some mark.toNat.toUInt8 :=
  ⟨fun hpair => ⟨hpair.first, hpair.second⟩, fun hbytes => ⟨hbytes.1, hbytes.2⟩⟩

instance (mark : Char) (bytes : List UInt8) (n : Nat) : Decidable (PairAt mark bytes n) :=
  decidable_of_iff' _ pairAt_iff

/-- The first place, in bytes, where a character is doubled. -/
def pairIndex? (mark : Char) (text : List Char) : Option Nat :=
  (List.range (byteLength text)).find? fun n => PairAt mark (encode text) n

theorem byteLength_singleton_of_ascii (hascii : mark.toNat < 128) : byteLength [mark] = 1 := by
  rw [← length_encode, encode_singleton, utf8EncodeChar_of_ascii hascii, List.length_singleton]

theorem pairAt_encode_iff (hascii : mark.toNat < 128) : PairAt mark (encode text) n ↔
    ∃ front back, text = front ++ mark :: mark :: back ∧ byteLength front = n := by
  rw [pairAt_iff, getElem?_encode_eq_some_iff hascii, getElem?_encode_eq_some_iff hascii]
  have hlength (front : List Char) : byteLength (front ++ [mark]) = byteLength front + 1 := by
    rw [byteLength_append, byteLength_singleton_of_ascii hascii]
  constructor
  · rintro ⟨⟨front, back, rfl, rfl⟩, front', back', htext, hfront'⟩
    rw [List.append_cons, ← hlength] at *
    obtain ⟨-, rfl⟩ := append_inj_of_byteLength htext hfront'.symm
    exact ⟨front, back', by simp, rfl⟩
  · rintro ⟨front, back, rfl, rfl⟩
    exact ⟨⟨front, mark :: back, rfl, rfl⟩, front ++ [mark], back, by simp, hlength front⟩

theorem noPair_iff_forall_not_pairAt (hascii : mark.toNat < 128) :
    NoPair mark text ↔ ∀ n, ¬ PairAt mark (encode text) n := by
  simp only [pairAt_encode_iff hascii]
  constructor
  · rintro hnone n ⟨front, back, htext, -⟩
    exact hnone front back htext
  · intro hnone front back htext
    exact hnone _ ⟨front, back, htext, rfl⟩

theorem pairAt_append_iff {first second : List UInt8} (hle : first.length ≤ n) :
    PairAt mark (first ++ second) n ↔ PairAt mark second (n - first.length) := by
  rw [pairAt_iff, pairAt_iff, List.getElem?_append_right hle,
    List.getElem?_append_right (Nat.le_add_right_of_le hle), Nat.sub_add_comm hle]

theorem byteLength_append_pair (hascii : mark.toNat < 128) (front : List Char) :
    byteLength (front ++ [mark, mark]) = byteLength front + 2 := by
  have hpair : [mark, mark] = [mark] ++ [mark] := rfl
  rw [hpair, byteLength_append, byteLength_append, byteLength_singleton_of_ascii hascii]

theorem FirstPair.splitAtByte?_eq (hpair : FirstPair mark text front back) (hascii : mark.toNat < 128) :
    splitAtByte? text (byteLength front) = some (front, mark :: mark :: back) ∧
      splitAtByte? text (byteLength front + 2) = some (front ++ [mark, mark], back) := by
  rw [splitAtByte?_eq_some_iff, splitAtByte?_eq_some_iff, byteLength_append_pair hascii,
    hpair.text_eq]
  exact ⟨⟨rfl, rfl⟩, by simp, rfl⟩

theorem pairIndex?_of_noPair (hascii : mark.toNat < 128) (hnone : NoPair mark text) :
    pairIndex? mark text = none := by
  refine List.find?_eq_none.2 fun n _ hpair => ?_
  exact (noPair_iff_forall_not_pairAt hascii).1 hnone n (of_decide_eq_true hpair)

theorem FirstPair.pairIndex?_eq (hpair : FirstPair mark text front back)
    (hascii : mark.toNat < 128) : pairIndex? mark text = some (byteLength front) := by
  refine List.find?_range_eq_some.2 ⟨?_, ?_, fun n hlt => ?_⟩
  · exact decide_eq_true ((pairAt_encode_iff hascii).2 ⟨front, back, hpair.text_eq, rfl⟩)
  · rw [List.mem_range, hpair.text_eq, byteLength_append]
    have hpos := mark.utf8Size_pos
    rw [byteLength]
    omega
  · rw [Bool.not_eq_true', decide_eq_false_iff_not, pairAt_encode_iff hascii]
    rintro ⟨front', back', htext, rfl⟩
    have hle := hpair.first front' back' htext
    obtain ⟨between, rfl⟩ := List.prefix_of_prefix_length_le
      ⟨_, hpair.text_eq.symm⟩ ⟨_, htext.symm⟩ hle
    rw [byteLength_append] at hlt
    omega

end EventRelay.Text
