import EventRelay.Cursor.Directory
import EventRelay.Proofs.Cursor.File
import EventRelay.Proofs.Cursor.Names
import EventRelay.Proofs.Script.Trace

namespace EventRelay

namespace Directory

variable {directory directory' : Directory} {name source target : String} {content : List UInt8}

theorem lookup_without (entries : List (String × DirectoryEntry)) (name other : String) :
    (without entries name).lookup other = if other = name then none else entries.lookup other := by
  induction entries with
  | nil => simp [without]
  | cons head rest ih =>
    obtain ⟨key, entry⟩ := head
    rw [without] at ih ⊢
    grind

theorem entry?_put (hholding : directory ≠ .obstructed) (name other : String)
    (entry : DirectoryEntry) :
    entry? (directory.put name entry) other =
      if other = name then some entry else directory.entry? other := by
  cases directory with
  | obstructed => exact absurd rfl hholding
  | holding entries =>
    simp only [put, entry?]
    grind [lookup_without]

theorem put_ne_obstructed (hholding : directory ≠ .obstructed) (name : String)
    (entry : DirectoryEntry) : directory.put name entry ≠ .obstructed := by
  cases directory with
  | obstructed => exact absurd rfl hholding
  | holding entries => simp [put]

theorem entry?_remove (directory : Directory) (name other : String) :
    entry? (directory.remove name) other =
      if other = name then none else directory.entry? other := by
  cases directory with
  | obstructed => simp [remove, entry?]
  | holding entries => exact lookup_without entries name other

theorem remove_ne_obstructed (hholding : directory ≠ .obstructed) (name : String) :
    directory.remove name ≠ .obstructed := by
  cases directory with
  | obstructed => exact absurd rfl hholding
  | holding entries => simp [remove]

/-- What a write that succeeds has done. -/
structure Wrote (directory : Directory) (name : String) (content : List UInt8)
    (directory' : Directory) : Prop where
  accepted : FileName.check name = .ok ()
  holding : directory ≠ .obstructed
  holding' : directory' ≠ .obstructed
  written : directory'.entry? name = some (.file content)
  elsewhere : ∀ other, other ≠ name → directory'.entry? other = directory.entry? other

/-- What a renaming that succeeds has done. -/
structure Renamed (directory : Directory) (source target : String) (directory' : Directory) :
    Prop where
  accepted : FileName.check target = .ok ()
  holding : directory ≠ .obstructed
  holding' : directory' ≠ .obstructed
  moved : ∃ entry, directory.entry? source = some entry ∧ directory'.entry? target = some entry
  elsewhere : ∀ other, other ≠ source → other ≠ target →
    directory'.entry? other = directory.entry? other

/-- Two directories agree on whether there is one at all, and on all names but some. -/
structure Agrees (names : List String) (directory directory' : Directory) : Prop where
  obstructed : directory = .obstructed ↔ directory' = .obstructed
  entry : ∀ name, name ∉ names → directory.entry? name = directory'.entry? name

theorem Agrees.refl (names : List String) (directory : Directory) : Agrees names directory directory :=
  ⟨Iff.rfl, fun _ _ => rfl⟩

theorem Agrees.mono {names names' : List String} (hagrees : Agrees names directory directory')
    (hsubset : names ⊆ names') : Agrees names' directory directory' :=
  ⟨hagrees.obstructed, fun name hname => hagrees.entry name fun hmem => hname (hsubset hmem)⟩

theorem Wrote.agrees (hwrote : Wrote directory name content directory') :
    Agrees [name] directory directory' := by
  refine ⟨iff_of_false hwrote.holding hwrote.holding', ?_⟩
  intro other hother
  exact (hwrote.elsewhere other (by simpa using hother)).symm

theorem Renamed.agrees (hrenamed : Renamed directory source target directory') :
    Agrees [source, target] directory directory' := by
  refine ⟨iff_of_false hrenamed.holding hrenamed.holding', ?_⟩
  intro other hother
  obtain ⟨hsource, htarget⟩ : other ≠ source ∧ other ≠ target := by simpa using hother
  exact (hrenamed.elsewhere other hsource htarget).symm

theorem wrote_put (haccepted : FileName.check name = .ok ()) (hholding : directory ≠ .obstructed) :
    Wrote directory name content (directory.put name (.file content)) := by
  refine ⟨haccepted, hholding, put_ne_obstructed hholding _ _, ?_, ?_⟩
  · rw [entry?_put hholding, if_pos rfl]
  · intro other hother
    rw [entry?_put hholding, if_neg hother]

theorem renamed_put {entry : DirectoryEntry} (haccepted : FileName.check target = .ok ())
    (hholding : directory ≠ .obstructed) (hentry : directory.entry? source = some entry) :
    Renamed directory source target ((directory.remove source).put target entry) := by
  have hremoved := remove_ne_obstructed hholding source
  refine ⟨haccepted, hholding, put_ne_obstructed hremoved _ _, ⟨entry, hentry, ?_⟩, ?_⟩
  · rw [entry?_put hremoved, if_pos rfl]
  · intro other hsource htarget
    rw [entry?_put hremoved, if_neg htarget, entry?_remove, if_neg hsource]

theorem wrote_of_write (hwrite : directory.write name content = .ok directory') :
    Wrote directory name content directory' := by
  rw [write] at hwrite
  cases haccepted : FileName.check name with
  | error error =>
    rw [haccepted] at hwrite
    cases hwrite
  | ok =>
    rw [haccepted] at hwrite
    by_cases hholding : directory = .obstructed
    · simp [hholding, bind, Except.bind] at hwrite
    · simp only [hholding, bind, Except.bind, if_false] at hwrite
      split at hwrite
      · cases hwrite
      · cases hwrite
        exact wrote_put haccepted hholding

theorem renamed_of_rename (hrename : directory.rename source target = .ok directory') :
    Renamed directory source target directory' := by
  rw [rename] at hrename
  cases hsource : FileName.check source with
  | error error =>
    rw [hsource] at hrename
    cases hrename
  | ok =>
    cases htarget : FileName.check target with
    | error error =>
      rw [hsource, htarget] at hrename
      cases hrename
    | ok =>
      rw [hsource, htarget] at hrename
      by_cases hholding : directory = .obstructed
      · simp [hholding, bind, Except.bind] at hrename
      · simp only [hholding, bind, Except.bind, if_false] at hrename
        split at hrename
        · cases hrename
        · cases hrename
        · cases hrename
          exact renamed_put htarget hholding (by assumption)

theorem write_of_not_directory (haccepted : FileName.check name = .ok ())
    (hholding : directory ≠ .obstructed) (hfree : directory.entry? name ≠ some .directory) :
    directory.write name content = .ok (directory.put name (.file content)) := by
  rw [write, haccepted, if_neg hholding]
  cases hentry : directory.entry? name with
  | none => rfl
  | some entry =>
    cases entry with
    | file => rfl
    | directory => exact absurd hentry hfree

theorem rename_of_not_directory (hsource : FileName.check source = .ok ())
    (htarget : FileName.check target = .ok ()) (hholding : directory ≠ .obstructed)
    (hfile : directory.entry? source = some (.file content))
    (hfree : directory.entry? target ≠ some .directory) :
    directory.rename source target =
      .ok ((directory.remove source).put target (.file content)) := by
  rw [rename, hsource, htarget, if_neg hholding, hfile]
  cases hentry : directory.entry? target with
  | none => rfl
  | some entry =>
    cases entry with
    | file => rfl
    | directory => exact absurd hentry hfree

theorem perform_makeDirectory (hholding : directory ≠ .obstructed) :
    perform .makeDirectory directory = (.ok (), directory) := by
  cases directory with
  | obstructed => exact absurd rfl hholding
  | holding entries => rfl

theorem perform_of_write (hwrite : directory.write name content = .ok directory') :
    perform (.write name content) directory = (.ok (), directory') := by
  change change (directory.write name content) directory = _
  rw [hwrite]
  rfl

theorem perform_of_rename (hrename : directory.rename source target = .ok directory') :
    perform (.rename source target) directory = (.ok (), directory') := by
  change change (directory.rename source target) directory = _
  rw [hrename]
  rfl

/-- A write either succeeds or changes nothing. -/
theorem perform_write (directory : Directory) (name : String) (content : List UInt8) :
    (∃ directory', Wrote directory name content directory' ∧
        perform (.write name content) directory = (.ok (), directory')) ∨
      ∃ error, perform (.write name content) directory = (.error error, directory) := by
  cases hwrite : directory.write name content with
  | ok directory' => exact .inl ⟨directory', wrote_of_write hwrite, perform_of_write hwrite⟩
  | error error =>
    refine .inr ⟨error, ?_⟩
    change change (directory.write name content) directory = _
    rw [hwrite]
    rfl

/-- A renaming either succeeds or changes nothing. -/
theorem perform_rename (directory : Directory) (source target : String) :
    (∃ directory', Renamed directory source target directory' ∧
        perform (.rename source target) directory = (.ok (), directory')) ∨
      ∃ error, perform (.rename source target) directory = (.error error, directory) := by
  cases hrename : directory.rename source target with
  | ok directory' => exact .inl ⟨directory', renamed_of_rename hrename, perform_of_rename hrename⟩
  | error error =>
    refine .inr ⟨error, ?_⟩
    change change (directory.rename source target) directory = _
    rw [hrename]
    rfl

theorem read_of_file (haccepted : FileName.check name = .ok ())
    (hholding : directory ≠ .obstructed) (hfile : directory.entry? name = some (.file content)) :
    directory.read name = .ok content := by
  rw [read, haccepted, if_neg hholding, hfile]
  rfl

theorem read_of_absent (haccepted : FileName.check name = .ok ())
    (hholding : directory ≠ .obstructed) (habsent : directory.entry? name = none) :
    directory.read name = .error .missing := by
  rw [read, haccepted, if_neg hholding, habsent]
  rfl

/-- What is read under a name depends on nothing else in the directory. -/
theorem read_congr (hholding : directory = .obstructed ↔ directory' = .obstructed)
    (hentry : directory.entry? name = directory'.entry? name) :
    directory.read name = directory'.read name := by
  simp only [read, hentry, hholding]

end Directory

namespace CursorStore

/-- What a load makes of the file that it reads. -/
def reading (store : CursorStore) (account : String) :
    Except FileError (List UInt8) → Except CursorError (Option UInt64)
  | .error .missing => .ok none
  | .error error => .error (.io (store.path account) error)
  | .ok content =>
    match CursorFile.read content with
    | .ok position => .ok (some position)
    | .error problem => .error (.unparsable problem)

theorem load_eq (store : CursorStore) (account : String) :
    store.load account =
      .ask (.read (CursorFile.name account)) fun answer => .done (store.reading account answer) := by
  rw [load]
  change Script.ask (FileOperation.read (CursorFile.name account)) _ = _
  congr 1
  funext answer
  cases answer with
  | error error => cases error <;> rfl
  | ok content =>
    simp only [Script.done_bind, reading]
    cases CursorFile.read content <;> rfl

/-- What a load gives when the directory is in that state. -/
def loaded (store : CursorStore) (directory : Directory) (account : String) :
    Except CursorError (Option UInt64) :=
  ((store.load account).run Directory.perform directory).1

theorem loaded_eq (store : CursorStore) (directory : Directory) (account : String) :
    store.loaded directory account =
      store.reading account (directory.read (CursorFile.name account)) := by
  rw [loaded, load_eq]
  rfl

/-- A load leaves the directory as it is. -/
theorem run_load (store : CursorStore) (account : String) (directory : Directory) :
    (store.load account).run Directory.perform directory =
      (store.loaded directory account, directory) := by
  rw [loaded, load_eq]
  rfl

variable {store : CursorStore} {directory directory' : Directory} {account : String}

theorem loaded_of_file {position : UInt64}
    (haccepted : FileName.check (CursorFile.name account) = .ok ())
    (hholding : directory ≠ .obstructed)
    (hfile : directory.entry? (CursorFile.name account) =
      some (.file (CursorFile.content position))) :
    store.loaded directory account = .ok (some position) := by
  rw [loaded_eq, Directory.read_of_file haccepted hholding hfile]
  simp only [reading, CursorFile.read_content]

theorem loaded_of_absent (haccepted : FileName.check (CursorFile.name account) = .ok ())
    (hholding : directory ≠ .obstructed)
    (habsent : directory.entry? (CursorFile.name account) = none) :
    store.loaded directory account = .ok none := by
  rw [loaded_eq, Directory.read_of_absent haccepted hholding habsent, reading]

/-- Accounts with one path load the same. -/
theorem loaded_eq_of_path_eq {first second : String} (hpath : store.path first = store.path second) :
    store.loaded directory first = store.loaded directory second := by
  rw [loaded_eq, loaded_eq, path_inj.1 hpath]
  cases directory.read (CursorFile.name second) with
  | error error => cases error <;> simp [reading, hpath]
  | ok content => simp only [reading]

theorem loaded_congr (hholding : directory = .obstructed ↔ directory' = .obstructed)
    (hentry : directory.entry? (CursorFile.name account) =
      directory'.entry? (CursorFile.name account)) :
    store.loaded directory account = store.loaded directory' account := by
  rw [loaded_eq, loaded_eq, Directory.read_congr hholding hentry]

end CursorStore

end EventRelay
