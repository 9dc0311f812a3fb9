import EventRelay.Proofs.Cursor.Directory

namespace EventRelay

/-- Whether an operation has put a file in the place of another. -/
def FileOperation.replaced : (operation : FileOperation) → operation.Answer → Bool
  | .rename _ _, .ok () => true
  | _, _ => false

/-- The answer to an operation that failed. -/
def FileOperation.failure (error : FileError) : (operation : FileOperation) → operation.Answer
  | .makeDirectory | .read _ | .write _ _ | .rename _ _ => .error error

namespace CursorStore

open Script

/-- The rest of a save when the new position has been written in full. -/
def replacing (store : CursorStore) (account : String) : FileM (Except CursorError Unit) :=
  .ask (.rename (CursorFile.temporaryName account) (CursorFile.name account)) fun
    | .error error => .done (.error (.io (store.path account) error))
    | .ok () => .done (.ok ())

/-- The rest of a save when the directory is there. -/
def writing (store : CursorStore) (account : String) (position : UInt64) :
    FileM (Except CursorError Unit) :=
  .ask (.write (CursorFile.temporaryName account) (CursorFile.content position)) fun
    | .error error => .done (.error (.io (store.temporaryPath account) error))
    | .ok () => store.replacing account

theorem save_eq (store : CursorStore) (account : String) (position : UInt64) :
    store.save account position = .ask .makeDirectory fun
      | .error error => .done (.error (.io store.directory error))
      | .ok () => store.writing account position := by
  rfl

/-- Saves on two paths have no file in common. -/
theorem notMem_names {store : CursorStore} {account other : String}
    (hpath : store.path account ≠ store.path other) :
    CursorFile.name other ∉ [CursorFile.temporaryName account, CursorFile.name account] ∧
      CursorFile.temporaryName other ∉
        [CursorFile.temporaryName account, CursorFile.name account] := by
  have hname : CursorFile.name other ≠ CursorFile.name account :=
    fun hname => hpath (path_inj.2 hname.symm)
  simp [hname, CursorFile.temporaryName_inj, CursorFile.temporaryName_ne_name,
    (CursorFile.temporaryName_ne_name account other).symm]

/-- How far a save has come, and what the directory holds for it. Only a save whose renaming took effect
is among those taken. -/
inductive Stage (store : CursorStore) (directory : Directory) (account : String) (position : UInt64)
    (taken : Prop) : Option (FileM (Except CursorError Unit)) → Prop
  | begun (htaken : ¬ taken) : Stage store directory account position taken
      (some (store.save account position))
  | made (htaken : ¬ taken) : Stage store directory account position taken
      (some (store.writing account position))
  | written (htaken : ¬ taken)
      (hwritten : directory.entry? (CursorFile.temporaryName account) =
        some (.file (CursorFile.content position))) :
      Stage store directory account position taken (some (store.replacing account))
  | failed (htaken : ¬ taken) (error : CursorError) :
      Stage store directory account position taken (some (.done (.error error)))
  | saved (htaken : taken) : Stage store directory account position taken (some (.done (.ok ())))
  | stopped : Stage store directory account position taken none

section

variable {store : CursorStore} {directory directory' : Directory} {account : String}
  {position : UInt64} {taken : Prop} {rest? : Option (FileM (Except CursorError Unit))}

/-- What others do to the directory matters only to a save that has written its file. -/
theorem Stage.transfer (hstage : Stage store directory account position taken rest?)
    (hkept : (∃ operation next, rest? = some (.ask operation next)) →
      directory'.entry? (CursorFile.temporaryName account) =
        directory.entry? (CursorFile.temporaryName account)) :
    Stage store directory' account position taken rest? := by
  cases hstage with
  | begun htaken => exact .begun htaken
  | made htaken => exact .made htaken
  | written htaken hwritten => exact .written htaken ((hkept ⟨_, _, rfl⟩).trans hwritten)
  | failed htaken error => exact .failed htaken error
  | saved htaken => exact .saved htaken
  | stopped => exact .stopped

theorem Stage.congr {taken' : Prop} (hstage : Stage store directory account position taken rest?)
    (htaken : taken ↔ taken') : Stage store directory account position taken' rest? := by
  rwa [propext htaken] at hstage

/-- What a save that is under way asks next. It has not been taken. -/
theorem Stage.of_ask {operation : FileOperation}
    {next : operation.Answer → FileM (Except CursorError Unit)}
    (hstage : Stage store directory account position taken (some (.ask operation next))) :
    ¬ taken ∧ (Script.ask operation next = store.save account position ∨
      Script.ask operation next = store.writing account position ∨
      (Script.ask operation next = store.replacing account ∧
        directory.entry? (CursorFile.temporaryName account) =
          some (.file (CursorFile.content position)))) := by
  generalize hrest : some (Script.ask operation next) = rest? at hstage
  cases hstage with
  | begun htaken => exact ⟨htaken, .inl (Option.some.inj hrest)⟩
  | made htaken => exact ⟨htaken, .inr (.inl (Option.some.inj hrest))⟩
  | written htaken hwritten => exact ⟨htaken, .inr (.inr ⟨Option.some.inj hrest, hwritten⟩)⟩
  | failed | saved | stopped => cases hrest

/-- What a save asks for changes its temporary file only, until it puts that in the place of the old
file. -/
theorem Stage.perform {operation : FileOperation}
    {next : operation.Answer → FileM (Except CursorError Unit)}
    (hstage : Stage store directory account position taken (some (.ask operation next))) :
    (operation.replaced (Directory.perform operation directory).1 = false ∧
        Directory.Agrees [CursorFile.temporaryName account] directory
          (Directory.perform operation directory).2 ∧
        Stage store (Directory.perform operation directory).2 account position taken
          (some (next (Directory.perform operation directory).1))) ∨
      (operation.replaced (Directory.perform operation directory).1 = true ∧
        Directory.Agrees [CursorFile.temporaryName account, CursorFile.name account] directory
          (Directory.perform operation directory).2 ∧
        store.loaded (Directory.perform operation directory).2 account = .ok (some position) ∧
        Stage store (Directory.perform operation directory).2 account position True
          (some (next (Directory.perform operation directory).1))) := by
  obtain ⟨htaken, hrest | hrest | ⟨hrest, hwritten⟩⟩ := hstage.of_ask
  · rw [save_eq] at hrest
    cases hrest
    refine .inl ⟨rfl, .refl _ _, ?_⟩
    change Stage store directory account position taken (some (match directory.makeDirectory with
      | .error error => _ | .ok () => _))
    cases directory.makeDirectory with
    | error error => exact .failed htaken _
    | ok => exact .made htaken
  · rw [writing] at hrest
    cases hrest
    obtain ⟨directory', hwrote, hperform⟩ | ⟨error, hperform⟩ :=
      Directory.perform_write directory (CursorFile.temporaryName account) (CursorFile.content position)
    · rw [hperform]
      exact .inl ⟨rfl, hwrote.agrees, .written htaken hwrote.written⟩
    · rw [hperform]
      exact .inl ⟨rfl, .refl _ _, .failed htaken _⟩
  · rw [replacing] at hrest
    cases hrest
    obtain ⟨directory', hrenamed, hperform⟩ | ⟨error, hperform⟩ :=
      Directory.perform_rename directory (CursorFile.temporaryName account) (CursorFile.name account)
    · rw [hperform]
      obtain ⟨entry, hsource, htarget⟩ := hrenamed.moved
      obtain rfl : DirectoryEntry.file (CursorFile.content position) = entry :=
        Option.some.inj (hwritten.symm.trans hsource)
      exact .inr ⟨rfl, hrenamed.agrees, loaded_of_file hrenamed.accepted hrenamed.holding' htarget,
        .saved trivial⟩
    · rw [hperform]
      exact .inl ⟨rfl, .refl _ _, .failed htaken _⟩

/-- A save of which an operation fails is over. -/
theorem Stage.fail {operation : FileOperation}
    {next : operation.Answer → FileM (Except CursorError Unit)}
    (hstage : Stage store directory account position taken (some (.ask operation next)))
    (error : FileError) :
    Stage store directory account position taken (some (next (operation.failure error))) := by
  obtain ⟨htaken, hrest | hrest | ⟨hrest, -⟩⟩ := hstage.of_ask
  · rw [save_eq] at hrest
    cases hrest
    exact .failed htaken _
  · rw [writing] at hrest
    cases hrest
    exact .failed htaken _
  · rw [replacing] at hrest
    cases hrest
    exact .failed htaken _

/-- A save that is writing can go on after a part of the content was written. -/
theorem Stage.tear {name : String} {content part : List UInt8}
    {next : Except FileError Unit → FileM (Except CursorError Unit)}
    (hstage : Stage store directory account position taken (some (.ask (.write name content) next)))
    (hpart : directory.write name part = .ok directory') :
    Directory.Agrees [CursorFile.temporaryName account] directory directory' ∧
      Stage store directory' account position taken (some (.ask (.write name content) next)) := by
  obtain ⟨htaken, hrest | hrest | ⟨hrest, -⟩⟩ := hstage.of_ask
  · rw [save_eq] at hrest
    cases hrest
  · rw [writing] at hrest
    cases hrest
    exact ⟨(Directory.wrote_of_write hpart).agrees, .made htaken⟩
  · rw [replacing] at hrest
    cases hrest

theorem Stage.taken_iff {result : Except CursorError Unit}
    (hstage : Stage store directory account position taken (some (.done result))) :
    taken ↔ result = .ok () := by
  generalize hrest : some (.done result : FileM (Except CursorError Unit)) = rest? at hstage
  cases hstage with
  | begun | made | written | stopped => cases hrest
  | failed htaken error =>
    cases hrest
    simp [htaken]
  | saved htaken =>
    cases hrest
    simp [htaken]

end

/-- What a save asks for are its own two files. -/
theorem save_asksOnly (store : CursorStore) (account : String) (position : UInt64) :
    (store.save account position).AsksOnly fun operation => operation = .makeDirectory ∨
      operation = .write (CursorFile.temporaryName account) (CursorFile.content position) ∨
      operation = .rename (CursorFile.temporaryName account) (CursorFile.name account) := by
  rw [save_eq]
  refine ⟨.inl rfl, fun made => ?_⟩
  obtain error | ⟨⟩ := made
  · trivial
  refine ⟨.inr (.inl rfl), fun written => ?_⟩
  obtain error | ⟨⟩ := written
  · trivial
  refine ⟨.inr (.inr rfl), fun renamed => ?_⟩
  obtain error | ⟨⟩ := renamed
  · trivial
  · trivial

end CursorStore

end EventRelay
