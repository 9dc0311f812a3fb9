import EventRelay.Cursor.File
import EventRelay.Proofs.Json.Numeral
import EventRelay.Proofs.Json.Token

namespace EventRelay.CursorFile

open Json Decoder

/-- The name of the only member, as bytes. -/
def memberName : List UInt8 :=
  [0x68, 0x69, 0x73, 0x74, 0x6F, 0x72, 0x79, 0x5F, 0x69, 0x64]

theorem isPlain_of_mem_memberName : ∀ b ∈ memberName, IsPlain b := by
  simp [memberName, IsPlain, Byte.quote, Byte.backslash]

/-- The text of the file: an object with the position as its only member. -/
theorem content_eq_encode (position : UInt64) :
    content position = Text.Utf8.encode
      ("\x7b\"history_id\":" ++ Text.natText position.toNat ++ "\x7d").toList := by
  have hname : Value.stringText "history_id" = "\"history_id\"" := by decide
  have hprint : (Value.object [("history_id", .natural position.toNat)]).print =
      "\x7b\"history_id\":" ++ Text.natText position.toNat ++ "\x7d" := by
    simp only [Value.print, Value.printMembers, hname, String.intercalate_singleton,
      ← String.append_assoc]
    rfl
  rw [content, Value.bytes, hprint]

theorem content_eq (position : UInt64) :
    content position = Byte.openBrace :: Byte.quote :: (memberName ++ Byte.quote :: Byte.colon ::
      (naturalBytes position.toNat ++ [Byte.closeBrace])) := by
  have hopening : Text.Utf8.encode "\x7b\"history_id\":".toList =
      Byte.openBrace :: Byte.quote :: (memberName ++ [Byte.quote, Byte.colon]) := by decide
  have hclosing : Text.Utf8.encode "\x7d".toList = [Byte.closeBrace] := by decide
  rw [content_eq_encode, String.toList_append, String.toList_append, Text.Utf8.encode_append,
    Text.Utf8.encode_append, hopening, hclosing]
  simp [naturalBytes]

/-- The name of the member is read before what follows it. -/
theorem tokens_of_memberName (rest : List UInt8) :
    tokens (Byte.openBrace :: Byte.quote :: (memberName ++ Byte.quote :: rest)) =
      scanTokens (rest.length + 11) [.string ⟨memberName, none⟩, .openBrace] rest := by
  have hopen (rest : List UInt8) : scanToken Byte.openBrace rest = (.openBrace, rest) := rfl
  have hname := scanString_plain isPlain_of_mem_memberName [] rest
  have hlength : (Byte.openBrace :: Byte.quote :: (memberName ++ Byte.quote :: rest)).length =
      rest.length + 11 + 1 + 1 := by
    simp [memberName]
  rw [tokens, hlength, scanTokens_cons rfl, hopen, scanTokens_cons rfl, scanToken_quote, hname]
  rfl

theorem scanTokens_colon (fuel : Nat) (read : List Token) (rest : List UInt8) :
    scanTokens (fuel + 1) read (Byte.colon :: rest) = scanTokens fuel (.colon :: read) rest :=
  scanTokens_cons rfl fuel read rest

theorem tokens_content (position : UInt64) :
    tokens (content position) = [.openBrace, .string ⟨memberName, none⟩, .colon,
      .number (.numeral ⟨false, naturalBytes position.toNat, none, none⟩), .closeBrace] := by
  have hends : EndsNumber [Byte.closeBrace] := endsNumber_cons rfl (by decide) rfl []
  rw [content_eq, tokens_of_memberName, scanTokens_colon, scanTokens_naturalBytes _ _ _ hends,
    scanTokens_cons rfl]
  rfl

/-- The only field of the record that is read. -/
def positionField : Decoder.Field UInt64 :=
  .needed "history_id" uint64 fun position _ => position

theorem decoder_eq : decoder = record [positionField] 0 :=
  rfl

theorem uint64_naturalBytes {n : Nat} (hlimit : n ≤ Text.maxUInt64) :
    uint64 (.number (.numeral ⟨false, naturalBytes n, none, none⟩)) = .ok n.toUInt64 :=
  map_eq_ok.2 ⟨n, natural_eq_ok_iff.2 ⟨hlimit, _, rfl, digitsValue_naturalBytes n⟩, rfl⟩

theorem positionField_store (node : Node) (before : UInt64) :
    positionField.store node before = uint64 node := by
  change (uint64 node).bind _ = _
  cases uint64 node <;> rfl

/-- The member is read before it is seen whether the object was closed. -/
theorem decoder_member (node : Node) (fault? : Option Fault) :
    decoder (.object [(⟨memberName, none⟩, node)] fault?) =
      uint64 node >>= fun position => closed fault? >>= fun _ => .ok position := by
  have htext : (⟨memberName, none⟩ : StringToken).text = .ok "history_id" := by
    rw [StringToken.text, unescape_plain isPlain_of_mem_memberName]
    rfl
  have hmembers : Field.storeMembers [positionField] [] 0 [(⟨memberName, none⟩, node)] =
      uint64 node >>= fun position => .ok ([0], position) := by
    rw [Field.storeMembers, htext]
    change (positionField.store node 0).bind _ = _
    rw [positionField_store]
    rfl
  rw [decoder_eq, record, hmembers]
  cases uint64 node <;> rfl

theorem toNat_le_maxUInt64 (position : UInt64) : position.toNat ≤ Text.maxUInt64 :=
  Nat.le_of_lt_succ position.toNat_lt

/-- What was written is read back. -/
theorem read_content (position : UInt64) : read (content position) = .ok position := by
  have hdocument : Document.read (content position) =
      ⟨.object [(⟨memberName, none⟩, .number (.numeral ⟨false, naturalBytes position.toNat, none,
        none⟩))] none, false⟩ := by
    rw [Document.read, tokens_content]
    simp [assemble]
  have hrun : decoder.run (content position) = .ok position := by
    rw [Decoder.run, hdocument, decoder_member, uint64_naturalBytes (toNat_le_maxUInt64 position),
      Nat.toUInt64_eq, UInt64.ofNat_toNat]
    rfl
  rw [read, Decoder.read, hrun]

end EventRelay.CursorFile
