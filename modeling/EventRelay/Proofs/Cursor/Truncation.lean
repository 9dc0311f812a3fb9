import EventRelay.Proofs.Cursor.Saving
import EventRelay.Proofs.Json.Record

namespace EventRelay

/-- A beginning of two lists ends in the first one or goes on into the second. -/
theorem prefix_front_or_append {α : Type} {part front back : List α} (hpart : part <+: front ++ back) :
    part <+: front ∨ ∃ rest, part = front ++ rest ∧ rest <+: back := by
  obtain hfront | ⟨rest, rfl⟩ := List.prefix_or_prefix_of_prefix hpart (List.prefix_append front back)
  · exact .inl hfront
  · exact .inr ⟨rest, rfl, (List.prefix_append_right_inj front).1 hpart⟩

namespace CursorFile

open Json Decoder

/-- What can be left of the file of a number when its end is lost. A number may have become a smaller
one. -/
inductive Truncated (n : Nat) : List UInt8 → Prop
  | nothing : Truncated n []
  | brace : Truncated n [Byte.openBrace]
  | name {part : List UInt8} (hpart : part <+: memberName) :
      Truncated n (Byte.openBrace :: Byte.quote :: part)
  | quote : Truncated n (Byte.openBrace :: Byte.quote :: (memberName ++ [Byte.quote]))
  | colon : Truncated n (Byte.openBrace :: Byte.quote :: (memberName ++ [Byte.quote, Byte.colon]))
  | number {m : Nat} (hle : m ≤ n) : Truncated n
      (Byte.openBrace :: Byte.quote :: (memberName ++ Byte.quote :: Byte.colon :: naturalBytes m))

variable {n : Nat} {position : UInt64} {part : List UInt8}

theorem truncated_of_isPrefix (hpart : part <+: content position) (hne : part ≠ content position) :
    Truncated position.toNat part := by
  rw [content_eq] at hpart hne
  obtain rfl | ⟨part, rfl, hbrace⟩ := List.prefix_cons_iff.1 hpart
  · exact .nothing
  obtain rfl | ⟨part, rfl, hopened⟩ := List.prefix_cons_iff.1 hbrace
  · exact .brace
  obtain hname | ⟨part, rfl, hnamed⟩ := prefix_front_or_append hopened
  · exact .name hname
  obtain rfl | ⟨part, rfl, hquote⟩ := List.prefix_cons_iff.1 hnamed
  · rw [List.append_nil]
    exact .name List.prefix_rfl
  obtain rfl | ⟨part, rfl, hcolon⟩ := List.prefix_cons_iff.1 hquote
  · exact .quote
  obtain hwhole | hdigits := List.prefix_concat_iff.1 hcolon
  · exact absurd (by rw [hwhole]) hne
  obtain rfl | hsome := eq_or_ne part []
  · exact .colon
  · obtain ⟨m, hle, rfl⟩ := exists_naturalBytes_of_isPrefix hdigits hsome
    exact .number hle

/-- A name that is not closed is the last token. -/
theorem tokens_of_prefix_memberName (hpart : part <+: memberName) :
    tokens (Byte.openBrace :: Byte.quote :: part) =
      [.openBrace, .string ⟨part, some .truncated⟩] := by
  have hplain : ∀ b ∈ part, IsPlain b := fun b hb => isPlain_of_mem_memberName b (hpart.mem hb)
  have hopen (rest : List UInt8) : scanToken Byte.openBrace rest = (.openBrace, rest) := rfl
  have hlength : (Byte.openBrace :: Byte.quote :: part).length = part.length + 1 + 1 := rfl
  rw [tokens, hlength, scanTokens_cons rfl, hopen, scanTokens_cons rfl, scanToken_quote,
    scanString_unclosed hplain, scanTokens_nil]
  rfl

theorem decoder_of_unclosed_name (hpart : part <+: memberName) :
    decoder (.object [(⟨part, some .truncated⟩, .missing .truncated)] (some .truncated)) =
      .error .truncated := by
  have hplain : ∀ b ∈ part, IsPlain b := fun b hb => isPlain_of_mem_memberName b (hpart.mem hb)
  have htext : (⟨part, some .truncated⟩ : StringToken).text = .error .truncated := by
    rw [StringToken.text, unescape_plain hplain]
    rfl
  rw [decoder_eq, record, Field.storeMembers, htext]
  rfl

/-- The object is not closed, and that is noticed even when its number could be read. -/
theorem Truncated.run_eq (htruncated : Truncated n part) (hlimit : n ≤ Text.maxUInt64) :
    decoder.run part = .error .truncated := by
  cases htruncated with
  | nothing => rfl
  | brace => rfl
  | name hpart =>
    apply run_of_root_error
    rw [Document.read, tokens_of_prefix_memberName hpart]
    exact decoder_of_unclosed_name hpart
  | quote => rfl
  | colon => rfl
  | @number m hle =>
    have hnumber : scanTokens ((naturalBytes m).length + 10 + 1)
        [.colon, .string ⟨memberName, none⟩, .openBrace] (naturalBytes m) =
          [.openBrace, .string ⟨memberName, none⟩, .colon,
            .number (.numeral ⟨false, naturalBytes m, none, none⟩)] := by
      have hscan := scanTokens_naturalBytes ((naturalBytes m).length + 10)
        [.colon, .string ⟨memberName, none⟩, .openBrace] m endsNumber_nil
      rwa [List.append_nil, scanTokens_nil] at hscan
    have hroot : (Document.read (Byte.openBrace :: Byte.quote ::
        (memberName ++ Byte.quote :: Byte.colon :: naturalBytes m))).root =
          .object [(⟨memberName, none⟩, .number (.numeral ⟨false, naturalBytes m, none, none⟩))]
            (some .truncated) := by
      rw [Document.read, tokens_of_memberName, scanTokens_colon, List.length_cons, hnumber]
      simp [assemble, Frame.closeAll]
    apply run_of_root_error
    rw [hroot, decoder_member, uint64_naturalBytes (hle.trans hlimit)]
    rfl

/-- No beginning of a file but the whole of it is read as a position. -/
theorem read_of_isPrefix (hpart : part <+: content position) (hne : part ≠ content position) :
    read part = .error (.ofText .truncated part) := by
  have hrun := (truncated_of_isPrefix hpart hne).run_eq (toNat_le_maxUInt64 position)
  rw [read, Decoder.read, hrun]

end CursorFile

namespace CursorStore

variable {store : CursorStore} {directory directory' : Directory} {account : String}
  {position : UInt64}

theorem run_ask {α : Type} (operation : FileOperation) (next : operation.Answer → FileM α)
    (directory : Directory) :
    (Script.ask operation next).run Directory.perform directory =
      (next (Directory.perform operation directory).1).run Directory.perform
        (Directory.perform operation directory).2 :=
  rfl

theorem run_done {α : Type} (value : α) (directory : Directory) :
    (Script.done value : FileM α).run Directory.perform directory = (value, directory) :=
  rfl

theorem read_of_replacing {content : List UInt8}
    (hwritten : directory.entry? (CursorFile.temporaryName account) = some (.file content))
    (hrun : (store.replacing account).run Directory.perform directory = (.ok (), directory')) :
    directory'.read (CursorFile.name account) = .ok content := by
  rw [replacing, run_ask] at hrun
  obtain ⟨renamed, hrenamed, hperform⟩ | ⟨error, hperform⟩ := Directory.perform_rename directory
    (CursorFile.temporaryName account) (CursorFile.name account)
  · rw [hperform, run_done, Prod.mk.injEq] at hrun
    obtain ⟨-, rfl⟩ := hrun
    obtain ⟨entry, hsource, htarget⟩ := hrenamed.moved
    obtain rfl := Option.some.inj (hwritten.symm.trans hsource)
    exact Directory.read_of_file hrenamed.accepted hrenamed.holding' htarget
  · rw [hperform, run_done] at hrun
    cases hrun

/-- A save that returns no error has put its file in place. -/
theorem read_of_save
    (hrun : (store.save account position).run Directory.perform directory = (.ok (), directory')) :
    directory'.read (CursorFile.name account) = .ok (CursorFile.content position) := by
  rw [save_eq, run_ask] at hrun
  change Script.run Directory.perform (match directory.makeDirectory with
    | .error error => _ | .ok () => _) directory = _ at hrun
  cases hmade : directory.makeDirectory with
  | error error =>
    rw [hmade] at hrun
    cases hrun
  | ok =>
    rw [hmade] at hrun
    dsimp only at hrun
    rw [writing, run_ask] at hrun
    obtain ⟨written, hwrote, hperform⟩ | ⟨error, hperform⟩ := Directory.perform_write directory
      (CursorFile.temporaryName account) (CursorFile.content position)
    · rw [hperform] at hrun
      exact read_of_replacing hwrote.written hrun
    · rw [hperform, run_done] at hrun
      cases hrun

theorem run_save {written : Directory} (hholding : directory ≠ .obstructed)
    (hwrite : directory.write (CursorFile.temporaryName account) (CursorFile.content position) =
      .ok written)
    (hrename : written.rename (CursorFile.temporaryName account) (CursorFile.name account) =
      .ok directory') :
    (store.save account position).run Directory.perform directory = (.ok (), directory') := by
  rw [save_eq, run_ask, Directory.perform_makeDirectory hholding]
  dsimp only
  rw [writing, run_ask, Directory.perform_of_write hwrite]
  dsimp only
  rw [replacing, run_ask, Directory.perform_of_rename hrename]
  rfl

/-- What it takes for a file to be saved in a directory. -/
structure Admits (directory : Directory) (account : String) : Prop where
  holding : directory ≠ .obstructed
  accepted : FileName.check (CursorFile.name account) = .ok ()
  accepted_temporary : FileName.check (CursorFile.temporaryName account) = .ok ()
  free : directory.entry? (CursorFile.name account) ≠ some .directory
  free_temporary : directory.entry? (CursorFile.temporaryName account) ≠ some .directory

theorem exists_run_save (hadmits : Admits directory account) :
    ∃ directory', (store.save account position).run Directory.perform directory =
      (.ok (), directory') := by
  obtain ⟨hholding, haccepted, htemporary, hfree, hfree'⟩ := hadmits
  have hwrite : directory.write (CursorFile.temporaryName account) (CursorFile.content position) =
      .ok _ := Directory.write_of_not_directory htemporary hholding hfree'
  have hwrote := Directory.wrote_of_write hwrite
  have helsewhere := hwrote.elsewhere (CursorFile.name account)
    (CursorFile.temporaryName_ne_name account account).symm
  have hrename := Directory.rename_of_not_directory htemporary haccepted hwrote.holding'
    hwrote.written (by rwa [helsewhere])
  exact ⟨_, run_save hholding hwrite hrename⟩

/-- A position that was saved is loaded in full or not at all. -/
structure Unmistakable (store : CursorStore) (account : String) (position : UInt64) : Prop where
  content_eq : CursorFile.content position = Text.Utf8.encode
    ("\x7b\"history_id\":" ++ Text.natText position.toNat ++ "\x7d").toList
  writes : (store.save account position).AsksOnly fun operation => ∀ name content,
    operation = .write name content → content = CursorFile.content position
  returns : ∀ directory, Admits directory account → ∃ directory',
    (store.save account position).run Directory.perform directory = (.ok (), directory')
  saved : ∀ directory directory',
    (store.save account position).run Directory.perform directory = (.ok (), directory') →
      directory'.read (CursorFile.name account) = .ok (CursorFile.content position)
  loaded : ∀ directory,
    directory.read (CursorFile.name account) = .ok (CursorFile.content position) →
      store.loaded directory account = .ok (some position)
  /-- A file that has lost its end is refused, wherever the end is missing from. -/
  truncated : ∀ directory part, directory.read (CursorFile.name account) = .ok part →
    part <+: CursorFile.content position → part ≠ CursorFile.content position →
      ∃ problem, store.loaded directory account = .error (.unparsable problem) ∧
        problem.fault = .truncated

theorem saved_unmistakable (store : CursorStore) (account : String) (position : UInt64) :
    Unmistakable store account position where
  content_eq := CursorFile.content_eq_encode position
  writes := by
    refine (store.save_asksOnly account position).mono ?_
    rintro operation (rfl | rfl | rfl) name content hwrite <;> cases hwrite
    rfl
  returns _ := exists_run_save
  saved _ _ := read_of_save
  loaded directory hread := by
    rw [loaded_eq, hread]
    simp only [reading, CursorFile.read_content]
  truncated directory part hread hpart hne := by
    refine ⟨.ofText .truncated part, ?_, rfl⟩
    rw [loaded_eq, hread]
    simp only [reading, CursorFile.read_of_isPrefix hpart hne]

/-- What is left of the number would be a position of its own. -/
example : CursorStore.loaded ⟨"state"⟩
    (.holding [("gmail-state.json", .file (CursorFile.content 150).dropLast.dropLast)]) "" =
      .error (.unparsable ⟨.truncated, 1, 16⟩) := by
  decide +kernel

end CursorStore

end EventRelay
