import EventRelay.Proofs.Cursor.Saving
import Mathlib.Logic.Relation

namespace EventRelay.CursorStore

open Script

/-- A save that was begun. -/
structure Save where
  account : String
  position : UInt64
  /-- What it still has to do, unless it was stopped. -/
  rest? : Option (FileM (Except CursorError Unit))

def Save.IsUnderWay (save : Save) : Prop :=
  ∃ operation next, save.rest? = some (.ask operation next)

/-- A store in use: its directory, all saves in the order in which they began, and the places of those
whose renaming took effect, the last one first. -/
structure Usage where
  directory : Directory
  saves : List Save
  taken : List Nat

namespace Usage

/-- A store that is about to be used. -/
def initially (directory : Directory) : Usage :=
  ⟨directory, [], []⟩

/-- What can happen to a store, in any order. Only saves on one path wait for each other. -/
inductive Step (store : CursorStore) : Usage → Usage → Prop
  | begin {directory : Directory} {saves : List Save} {taken : List Nat} (account : String)
      (position : UInt64)
      (hfree : ∀ save ∈ saves, save.IsUnderWay → store.path save.account ≠ store.path account) :
      Step store ⟨directory, saves, taken⟩
        ⟨directory, saves ++ [⟨account, position, some (store.save account position)⟩], taken⟩
  | perform {directory : Directory} {before after : List Save} {taken : List Nat} {account : String}
      {position : UInt64} {operation : FileOperation}
      {next : operation.Answer → FileM (Except CursorError Unit)} :
      Step store ⟨directory, before ++ ⟨account, position, some (.ask operation next)⟩ :: after, taken⟩
        ⟨(Directory.perform operation directory).2,
          before ++ ⟨account, position, some (next (Directory.perform operation directory).1)⟩ :: after,
          if operation.replaced (Directory.perform operation directory).1 then before.length :: taken
          else taken⟩
  | fail {directory : Directory} {before after : List Save} {taken : List Nat} {account : String}
      {position : UInt64} {operation : FileOperation}
      {next : operation.Answer → FileM (Except CursorError Unit)} (error : FileError) :
      Step store ⟨directory, before ++ ⟨account, position, some (.ask operation next)⟩ :: after, taken⟩
        ⟨directory, before ++ ⟨account, position, some (next (operation.failure error))⟩ :: after,
          taken⟩
  /-- While a file is being written it may hold anything. -/
  | tear {directory directory' : Directory} {before after : List Save} {taken : List Nat}
      {account : String} {position : UInt64} {name : String} {content part : List UInt8}
      {next : Except FileError Unit → FileM (Except CursorError Unit)}
      (hpart : directory.write name part = .ok directory') :
      Step store
        ⟨directory, before ++ ⟨account, position, some (.ask (.write name content) next)⟩ :: after, taken⟩
        ⟨directory', before ++ ⟨account, position, some (.ask (.write name content) next)⟩ :: after,
          taken⟩
  /-- A crash stops a save between two operations, or in the middle of a write. -/
  | stop {directory : Directory} {before after : List Save} {taken : List Nat} {account : String}
      {position : UInt64} {operation : FileOperation}
      {next : operation.Answer → FileM (Except CursorError Unit)} :
      Step store ⟨directory, before ++ ⟨account, position, some (.ask operation next)⟩ :: after, taken⟩
        ⟨directory, before ++ ⟨account, position, none⟩ :: after, taken⟩
  | load {directory : Directory} {saves : List Save} {taken : List Nat} (account : String) :
      Step store ⟨directory, saves, taken⟩
        ⟨((store.load account).run Directory.perform directory).2, saves, taken⟩

/-- Everything that a store can come to from a directory. -/
abbrev Reachable (store : CursorStore) (initial : Directory) (usage : Usage) : Prop :=
  Relation.ReflTransGen (Step store) (initially initial) usage

/-- The position of a save, if it is one on the path of an account. -/
def offer (store : CursorStore) (saves : List Save) (account : String) (place : Nat) :
    Option UInt64 :=
  (saves[place]?).bind fun save =>
    if store.path save.account = store.path account then some save.position else none

/-- The position of the last save on the path of an account whose renaming took effect. -/
def last? (store : CursorStore) (usage : Usage) (account : String) : Option UInt64 :=
  usage.taken.findSome? (offer store usage.saves account)

/-- What a load should give: the position that was saved last, or else what was there in the
beginning. -/
def expected (store : CursorStore) (initial : Directory) (usage : Usage) (account : String) :
    Except CursorError (Option UInt64) :=
  (usage.last? store account).elim (store.loaded initial account) fun position => .ok (some position)

variable {store : CursorStore} {initial directory directory' : Directory} {usage usage' : Usage}
  {before after saves : List Save} {taken taken' : List Nat} {account : String} {position : UInt64}
  {rest? rest'? : Option (FileM (Except CursorError Unit))}

theorem getElem?_replace {new save : Save} {place : Nat} (old : Save)
    (hsave : (before ++ new :: after)[place]? = some save) :
    (place = before.length ∧ save = new) ∨
      (place ≠ before.length ∧ (before ++ old :: after)[place]? = some save) := by
  rw [List.getElem?_append] at hsave ⊢
  obtain hlt | heq | hgt := Nat.lt_trichotomy place before.length
  · rw [if_pos hlt] at hsave ⊢
    exact .inr ⟨hlt.ne, hsave⟩
  · subst heq
    simp at hsave
    exact .inl ⟨rfl, hsave.symm⟩
  · rw [if_neg (by omega)] at hsave ⊢
    obtain ⟨distance, hdistance⟩ :=
      Nat.exists_eq_add_one_of_ne_zero (n := place - before.length) (by omega)
    rw [hdistance, List.getElem?_cons_succ] at hsave ⊢
    exact .inr ⟨hgt.ne', hsave⟩

/-- What a save does next makes it no other save. -/
theorem offer_replace (rest? : Option (FileM (Except CursorError Unit))) :
    offer store (before ++ ⟨account, position, rest'?⟩ :: after) =
      offer store (before ++ ⟨account, position, rest?⟩ :: after) := by
  funext other place
  simp only [offer, List.getElem?_append]
  split
  · rfl
  · cases place - before.length with
    | zero => rfl
    | succ distance => rfl

theorem offer_append {place : Nat} (hplace : place < saves.length) (more : List Save)
    (account : String) : offer store (saves ++ more) account place = offer store saves account place := by
  rw [offer, List.getElem?_append_left hplace, offer]

theorem findSome?_congr {α β : Type} {f g : α → Option β} {items : List α}
    (hsame : ∀ item ∈ items, f item = g item) : items.findSome? f = items.findSome? g := by
  induction items with
  | nil => rfl
  | cons item rest ih =>
    obtain ⟨hitem, hrest⟩ := List.forall_mem_cons.1 hsame
    rw [List.findSome?_cons, List.findSome?_cons, hitem, ih hrest]

theorem expected_replace (directory : Directory)
    (rest? : Option (FileM (Except CursorError Unit))) (other : String) :
    expected store initial ⟨directory', before ++ ⟨account, position, rest'?⟩ :: after, taken⟩ other =
      expected store initial ⟨directory, before ++ ⟨account, position, rest?⟩ :: after, taken⟩ other := by
  rw [expected, expected, last?, last?, offer_replace rest?]

theorem expected_taken (other : String) :
    expected store initial
        ⟨directory, before ++ ⟨account, position, rest?⟩ :: after, before.length :: taken⟩ other =
      if store.path account = store.path other then .ok (some position)
      else expected store initial
        ⟨directory, before ++ ⟨account, position, rest?⟩ :: after, taken⟩ other := by
  have hoffer : offer store (before ++ ⟨account, position, rest?⟩ :: after) other before.length =
      if store.path account = store.path other then some position else none := by
    simp [offer]
  rw [expected, expected, last?, last?, List.findSome?_cons, hoffer]
  by_cases hpath : store.path account = store.path other
  · rw [if_pos hpath, if_pos hpath]
    rfl
  · rw [if_neg hpath, if_neg hpath]

/-- No two saves on one path are under way. -/
def Apart (store : CursorStore) (saves : List Save) : Prop :=
  ∀ (place place' : Nat) (save save' : Save), saves[place]? = some save →
    saves[place']? = some save' → place ≠ place' → save.IsUnderWay → save'.IsUnderWay →
      store.path save.account ≠ store.path save'.account

theorem Apart.replace (hapart : Apart store (before ++ ⟨account, position, rest?⟩ :: after))
    (hunderWay : Save.IsUnderWay ⟨account, position, rest?⟩) :
    Apart store (before ++ ⟨account, position, rest'?⟩ :: after) := by
  have hold {place : Nat} {save : Save}
      (hsave : (before ++ ⟨account, position, rest'?⟩ :: after)[place]? = some save)
      (hsaving : save.IsUnderWay) :
      ∃ old, (before ++ ⟨account, position, rest?⟩ :: after)[place]? = some old ∧
        old.IsUnderWay ∧ old.account = save.account := by
    obtain ⟨rfl, rfl⟩ | ⟨-, hsave⟩ := getElem?_replace ⟨account, position, rest?⟩ hsave
    · exact ⟨⟨account, position, rest?⟩, by simp, hunderWay, rfl⟩
    · exact ⟨save, hsave, hsaving, rfl⟩
  intro place place' save save' hsave hsave' hne hsaving hsaving'
  obtain ⟨old, holdSave, hsaving, haccount⟩ := hold hsave hsaving
  obtain ⟨old', holdSave', hsaving', haccount'⟩ := hold hsave' hsaving'
  rw [← haccount, ← haccount']
  exact hapart place place' old old' holdSave holdSave' hne hsaving hsaving'

theorem getElem?_concat {new save : Save} {place : Nat}
    (hsave : (saves ++ [new])[place]? = some save) :
    saves[place]? = some save ∨ (place = saves.length ∧ save = new) := by
  rw [List.getElem?_append] at hsave
  split at hsave
  · exact .inl hsave
  · rw [List.getElem?_singleton] at hsave
    split at hsave
    · exact .inr ⟨by omega, (Option.some.inj hsave).symm⟩
    · cases hsave

theorem Apart.concat (hapart : Apart store saves)
    (hfree : ∀ save ∈ saves, save.IsUnderWay → store.path save.account ≠ store.path account) :
    Apart store (saves ++ [⟨account, position, rest?⟩]) := by
  intro place place' save save' hsave hsave' hne hsaving hsaving'
  obtain hsave | ⟨rfl, rfl⟩ := getElem?_concat hsave
  · obtain hsave' | ⟨rfl, rfl⟩ := getElem?_concat hsave'
    · exact hapart place place' save save' hsave hsave' hne hsaving hsaving'
    · exact hfree save (List.mem_of_getElem? hsave) hsaving
  · obtain hsave' | ⟨rfl, rfl⟩ := getElem?_concat hsave'
    · exact (hfree save' (List.mem_of_getElem? hsave') hsaving').symm
    · exact absurd rfl hne

/-- Loads give what they should. -/
def Answers (store : CursorStore) (initial : Directory) (usage : Usage) : Prop :=
  ∀ account, store.loaded usage.directory account = usage.expected store initial account

/-- A step of a save leaves loads on all paths as they are, or it is taken and loads on its own path give
its position. -/
theorem Answers.replace
    (hanswers : Answers store initial ⟨directory, before ++ ⟨account, position, rest?⟩ :: after, taken⟩)
    (hagrees : Directory.Agrees [CursorFile.temporaryName account, CursorFile.name account] directory
      directory')
    (htaken : (taken' = taken ∧ directory.entry? (CursorFile.name account) =
        directory'.entry? (CursorFile.name account)) ∨
      (taken' = before.length :: taken ∧ store.loaded directory' account = .ok (some position))) :
    Answers store initial
      ⟨directory', before ++ ⟨account, position, rest'?⟩ :: after, taken'⟩ := by
  intro other
  change store.loaded directory' other = _
  have hbefore := hanswers other
  by_cases hpath : store.path account = store.path other
  · obtain ⟨rfl, hentry⟩ | ⟨rfl, hload⟩ := htaken
    · rw [path_inj.1 hpath] at hentry
      rw [← loaded_congr hagrees.obstructed hentry, expected_replace directory rest? other]
      exact hbefore
    · rw [expected_taken, if_pos hpath, ← loaded_eq_of_path_eq hpath, hload]
  · have hentry := hagrees.entry _ (notMem_names hpath).1
    rw [← loaded_congr hagrees.obstructed hentry]
    obtain ⟨rfl, -⟩ | ⟨rfl, -⟩ := htaken
    · rw [expected_replace directory rest? other]
      exact hbefore
    · rw [expected_taken, if_neg hpath, expected_replace directory rest? other]
      exact hbefore

/-- The directory holds what the saves that were taken have left there, and nothing has changed
elsewhere. -/
structure Sound (store : CursorStore) (initial : Directory) (usage : Usage) : Prop where
  stage : ∀ place save, usage.saves[place]? = some save →
    Stage store usage.directory save.account save.position (place ∈ usage.taken) save.rest?
  apart : Apart store usage.saves
  lt_length : ∀ place ∈ usage.taken, place < usage.saves.length
  answers : Answers store initial usage
  untouched : ∀ name, (∀ save ∈ usage.saves, name ≠ CursorFile.name save.account ∧
    name ≠ CursorFile.temporaryName save.account) →
      initial.entry? name = usage.directory.entry? name

theorem sound_initially (store : CursorStore) (initial : Directory) :
    Sound store initial (initially initial) := by
  refine ⟨?_, ?_, ?_, fun _ => rfl, fun _ _ => rfl⟩ <;> simp [initially, Apart]

/-- One of the saves takes a step. It changes what is loaded for its own path only, and only when it is
taken. -/
theorem Sound.replace
    (hsound : Sound store initial ⟨directory, before ++ ⟨account, position, rest?⟩ :: after, taken⟩)
    (hunderWay : Save.IsUnderWay ⟨account, position, rest?⟩)
    (hagrees : Directory.Agrees [CursorFile.temporaryName account, CursorFile.name account] directory
      directory')
    (hstage : Stage store directory' account position (before.length ∈ taken') rest'?)
    (htaken : (taken' = taken ∧ directory.entry? (CursorFile.name account) =
        directory'.entry? (CursorFile.name account)) ∨
      (taken' = before.length :: taken ∧ store.loaded directory' account = .ok (some position))) :
    Sound store initial ⟨directory', before ++ ⟨account, position, rest'?⟩ :: after, taken'⟩ := by
  obtain ⟨hstages, hapart, hlength, hanswers, huntouched⟩ := hsound
  refine ⟨?_, hapart.replace hunderWay, ?_, hanswers.replace hagrees htaken, ?_⟩
  · intro place save hsave
    obtain ⟨rfl, rfl⟩ | ⟨hplace, hsave⟩ := getElem?_replace ⟨account, position, rest?⟩ hsave
    · exact hstage
    · have hmem : place ∈ taken ↔ place ∈ taken' := by
        obtain ⟨rfl, -⟩ | ⟨rfl, -⟩ := htaken <;> simp [hplace]
      refine ((hstages place save hsave).congr hmem).transfer fun hsaving => ?_
      -- The other save works on files of its own, since no two on one path are under way.
      have hpath := hapart before.length place ⟨account, position, rest?⟩ save (by simp) hsave
        hplace.symm hunderWay hsaving
      exact (hagrees.entry _ (notMem_names hpath).2).symm
  · intro place hplace
    have hsame : (before ++ ⟨account, position, rest'?⟩ :: after).length =
        (before ++ ⟨account, position, rest?⟩ :: after).length := by simp
    obtain ⟨rfl, -⟩ | ⟨rfl, -⟩ := htaken
    · exact hsame ▸ hlength place hplace
    · obtain rfl | hplace := List.mem_cons.1 hplace
      · simp
      · exact hsame ▸ hlength place hplace
  · intro name hname
    have hown : name ≠ CursorFile.name account ∧ name ≠ CursorFile.temporaryName account :=
      hname ⟨account, position, rest'?⟩ (by simp)
    rw [← hagrees.entry name (by simp [hown])]
    refine huntouched name fun save hmem => ?_
    obtain hmem | hmem := List.mem_append.1 hmem
    · exact hname save (List.mem_append_left _ hmem)
    · obtain rfl | hmem := List.mem_cons.1 hmem
      · exact hown
      · exact hname save (List.mem_append_right _ (List.mem_cons_of_mem _ hmem))

theorem Sound.begin (hsound : Sound store initial ⟨directory, saves, taken⟩) (account : String)
    (position : UInt64)
    (hfree : ∀ save ∈ saves, save.IsUnderWay → store.path save.account ≠ store.path account) :
    Sound store initial
      ⟨directory, saves ++ [⟨account, position, some (store.save account position)⟩], taken⟩ := by
  obtain ⟨hstages, hapart, hlength, hanswers, huntouched⟩ := hsound
  refine ⟨?_, hapart.concat hfree, ?_, ?_, ?_⟩
  · intro place save hsave
    obtain hsave | ⟨rfl, rfl⟩ := getElem?_concat hsave
    · exact hstages place save hsave
    · exact .begun fun hmem => (hlength _ hmem).ne rfl
  · intro place hplace
    exact Nat.lt_of_lt_of_le (hlength place hplace) (by simp)
  · intro other
    have hoffers : taken.findSome? (offer store
          (saves ++ [⟨account, position, some (store.save account position)⟩]) other) =
        taken.findSome? (offer store saves other) :=
      findSome?_congr fun place hplace => offer_append (hlength place hplace) _ other
    rw [expected, last?, hoffers]
    exact hanswers other
  · intro name hname
    exact huntouched name fun save hmem => hname save (List.mem_append_left _ hmem)

theorem Step.sound (hstep : Step store usage usage') (hsound : Sound store initial usage) :
    Sound store initial usage' := by
  cases hstep with
  | begin account position hfree => exact hsound.begin account position hfree
  | @perform directory before after taken account position operation next =>
    have hstage := hsound.stage before.length ⟨account, position, some (.ask operation next)⟩ (by simp)
    obtain ⟨hreplaced, hagrees, hstage⟩ | ⟨hreplaced, hagrees, hloaded, hstage⟩ := hstage.perform
    · rw [hreplaced, if_neg Bool.false_ne_true]
      refine hsound.replace ⟨_, _, rfl⟩ (hagrees.mono (by simp)) hstage (.inl ⟨rfl, ?_⟩)
      refine hagrees.entry _ ?_
      simp [(CursorFile.temporaryName_ne_name account account).symm]
    · rw [hreplaced, if_pos rfl]
      exact hsound.replace ⟨_, _, rfl⟩ hagrees (hstage.congr (by simp)) (.inr ⟨rfl, hloaded⟩)
  | @fail directory before after taken account position operation next error =>
    have hstage := hsound.stage before.length ⟨account, position, some (.ask operation next)⟩ (by simp)
    exact hsound.replace ⟨_, _, rfl⟩ (.refl _ _) (hstage.fail error) (.inl ⟨rfl, rfl⟩)
  | @tear directory directory' before after taken account position name content part next hpart =>
    have hstage := hsound.stage before.length
      ⟨account, position, some (.ask (.write name content) next)⟩ (by simp)
    obtain ⟨hagrees, hstage⟩ := hstage.tear hpart
    refine hsound.replace ⟨_, _, rfl⟩ (hagrees.mono (by simp)) hstage (.inl ⟨rfl, ?_⟩)
    refine hagrees.entry _ ?_
    simp [(CursorFile.temporaryName_ne_name account account).symm]
  | stop => exact hsound.replace ⟨_, _, rfl⟩ (.refl _ _) .stopped (.inl ⟨rfl, rfl⟩)
  | load account =>
    rw [run_load]
    exact hsound

theorem Reachable.sound (hreachable : Reachable store initial usage) : Sound store initial usage := by
  induction hreachable with
  | refl => exact sound_initially store initial
  | tail _ hstep ih => exact hstep.sound ih

/-- Saves are only ever added, and so are those that were taken. -/
structure Grows (store : CursorStore) (usage usage' : Usage) : Prop where
  taken : ∃ more, usage'.taken = more ++ usage.taken
  length : usage.saves.length ≤ usage'.saves.length
  offer : ∀ account, ∀ place < usage.saves.length,
    offer store usage'.saves account place = offer store usage.saves account place

theorem Step.grows (hstep : Step store usage usage') : Grows store usage usage' := by
  cases hstep with
  | begin account position hfree =>
    exact ⟨⟨[], rfl⟩, by simp, fun other place hplace => offer_append hplace _ other⟩
  | perform =>
    refine ⟨?_, by simp, fun other place hplace => by rw [offer_replace]⟩
    dsimp only
    split
    · exact ⟨[_], rfl⟩
    · exact ⟨[], rfl⟩
  | fail | stop =>
    exact ⟨⟨[], rfl⟩, by simp, fun other place hplace => by rw [offer_replace]⟩
  | tear | load => exact ⟨⟨[], rfl⟩, Nat.le_refl _, fun _ _ _ => rfl⟩

theorem grows_of_steps (hsteps : Relation.ReflTransGen (Step store) usage usage') :
    Grows store usage usage' := by
  induction hsteps with
  | refl => exact ⟨⟨[], rfl⟩, Nat.le_refl _, fun _ _ _ => rfl⟩
  | tail _ hstep ih =>
    obtain ⟨⟨more, htaken⟩, hlength, hoffer⟩ := ih
    obtain ⟨⟨more', htaken'⟩, hlength', hoffer'⟩ := hstep.grows
    refine ⟨⟨more' ++ more, ?_⟩, hlength.trans hlength', ?_⟩
    · rw [htaken', htaken, List.append_assoc]
    · intro account place hplace
      rw [hoffer' account place (hplace.trans_le hlength), hoffer account place hplace]

/-- Only saves that were taken meanwhile can have changed what is loaded. -/
theorem Sound.exists_taken (hsound : Sound store initial usage) (hsound' : Sound store initial usage')
    (hgrows : Grows store usage usage')
    (hchanged : store.loaded usage'.directory account ≠ store.loaded usage.directory account) :
    ∃ more place save, usage'.taken = more ++ usage.taken ∧ place ∈ more ∧
      usage'.saves[place]? = some save ∧ store.path save.account = store.path account := by
  obtain ⟨⟨more, htaken⟩, hlength, hoffer⟩ := hgrows
  by_contra hnone
  push Not at hnone
  have hmore : more.findSome? (offer store usage'.saves account) = none := by
    rw [List.findSome?_eq_none_iff]
    intro place hplace
    rw [offer, Option.bind_eq_none_iff]
    intro save hsave
    exact if_neg (hnone more place save htaken hplace hsave)
  have hlast : usage'.last? store account = usage.last? store account := by
    rw [last?, htaken, List.findSome?_append, hmore, Option.none_or, last?]
    exact findSome?_congr fun place hplace => hoffer account place (hsound.lt_length place hplace)
  refine hchanged ?_
  rw [hsound.answers, hsound'.answers, expected, expected, hlast]

/-- What can be relied on while a store is in use, whatever fails. -/
structure Atomic (store : CursorStore) (initial : Directory) (usage : Usage) : Prop where
  /-- A load gives the position of the last save on the path whose renaming took effect. -/
  loaded_of_last : ∀ account position, usage.last? store account = some position →
    store.loaded usage.directory account = .ok (some position)
  /-- Without such a save a load gives what it gave in the beginning. -/
  loaded_of_none : ∀ account, usage.last? store account = none →
    store.loaded usage.directory account = store.loaded initial account
  /-- In the beginning it gave nothing if there was no file. -/
  loaded_absent : ∀ account, FileName.check (CursorFile.name account) = .ok () →
    initial ≠ .obstructed → initial.entry? (CursorFile.name account) = none →
      store.loaded initial account = .ok none
  /-- If loads give something else later on, then a save on that path has taken effect meanwhile, and
  it is none that has returned an error. -/
  changed : ∀ usage', Relation.ReflTransGen (Step store) usage usage' → ∀ account,
    store.loaded usage'.directory account ≠ store.loaded usage.directory account →
      ∃ more place save, usage'.taken = more ++ usage.taken ∧ place ∈ more ∧
        usage'.saves[place]? = some save ∧ store.path save.account = store.path account ∧
        ∀ error, save.rest? ≠ some (.done (.error error))
  /-- The saves that returned took effect exactly if they returned no error. -/
  taken_iff : ∀ place save result, usage.saves[place]? = some save →
    save.rest? = some (.done result) → (place ∈ usage.taken ↔ result = .ok ())
  /-- A save asks for nothing but its own two files, and writes under the temporary name only. -/
  asksOnly : ∀ account position, (store.save account position).AsksOnly fun operation =>
    operation = .makeDirectory ∨
      operation = .write (CursorFile.temporaryName account) (CursorFile.content position) ∨
      operation = .rename (CursorFile.temporaryName account) (CursorFile.name account)
  isChild : ∀ account, FileName.IsChild (CursorFile.name account) ∧
    FileName.IsChild (CursorFile.temporaryName account)
  temporaryName_ne : ∀ account other, CursorFile.temporaryName account ≠ CursorFile.name other
  /-- All other files are as they were. -/
  untouched : ∀ name, (∀ save ∈ usage.saves, name ≠ CursorFile.name save.account ∧
    name ≠ CursorFile.temporaryName save.account) →
      usage.directory.entry? name = initial.entry? name

/-- A store in use is a map from paths to positions, and saves that fail or are cut short leave it as it
is. -/
theorem reachable_atomic (hreachable : Reachable store initial usage) :
    Atomic store initial usage := by
  have hsound := hreachable.sound
  refine ⟨?_, ?_, ?_, ?_, ?_, store.save_asksOnly, ?_, CursorFile.temporaryName_ne_name, ?_⟩
  · intro account position hlast
    rw [hsound.answers, expected, hlast]
    rfl
  · intro account hlast
    rw [hsound.answers, expected, hlast]
    rfl
  · intro account haccepted hholding habsent
    exact loaded_of_absent haccepted hholding habsent
  · intro usage' hsteps account hchanged
    have hsound' := Reachable.sound (hreachable.trans hsteps)
    obtain ⟨more, place, save, htaken, hplace, hsave, hpath⟩ :=
      hsound.exists_taken hsound' (grows_of_steps hsteps) hchanged
    refine ⟨more, place, save, htaken, hplace, hsave, hpath, fun error hfailed => ?_⟩
    have hstage := hsound'.stage place save hsave
    rw [hfailed] at hstage
    have hmem : place ∈ usage'.taken := htaken ▸ List.mem_append_left _ hplace
    cases hstage.taken_iff.1 hmem
  · intro place save result hsave hresult
    have hstage := hsound.stage place save hsave
    rw [hresult] at hstage
    exact hstage.taken_iff
  · exact fun account =>
      ⟨CursorFile.isChild_name account, CursorFile.isChild_temporaryName account⟩
  · exact fun name hname => (hsound.untouched name hname).symm

theorem Reachable.perform {operation : FileOperation} {answer : operation.Answer}
    {next : operation.Answer → FileM (Except CursorError Unit)}
    (hreachable : Reachable store initial
      ⟨directory, before ++ ⟨account, position, some (.ask operation next)⟩ :: after, taken⟩)
    (hperform : Directory.perform operation directory = (answer, directory')) :
    Reachable store initial ⟨directory', before ++ ⟨account, position, some (next answer)⟩ :: after,
      if operation.replaced answer then before.length :: taken else taken⟩ := by
  have hstep := hreachable.tail .perform
  rwa [hperform] at hstep

/-- A save begins and finds the directory there. -/
theorem Reachable.begin (hreachable : Reachable store initial ⟨directory, saves, taken⟩)
    (account : String) (position : UInt64)
    (hfree : ∀ save ∈ saves, save.IsUnderWay → store.path save.account ≠ store.path account)
    (hholding : directory ≠ .obstructed) :
    Reachable store initial
      ⟨directory, saves ++ [⟨account, position, some (store.writing account position)⟩], taken⟩ := by
  have hbegun := hreachable.tail (.begin account position hfree)
  rw [save_eq] at hbegun
  exact Reachable.perform hbegun (Directory.perform_makeDirectory hholding)

/-- A save of which no operation fails takes effect. -/
theorem Reachable.complete {written : Directory}
    (hreachable : Reachable store initial
      ⟨directory, saves ++ [⟨account, position, some (store.writing account position)⟩], taken⟩)
    (hwrite : directory.write (CursorFile.temporaryName account) (CursorFile.content position) =
      .ok written)
    (hrename : written.rename (CursorFile.temporaryName account) (CursorFile.name account) =
      .ok directory') :
    Reachable store initial
      ⟨directory', saves ++ [⟨account, position, some (.done (.ok ()))⟩], saves.length :: taken⟩ :=
  Reachable.perform (Reachable.perform hreachable (Directory.perform_of_write hwrite))
    (Directory.perform_of_rename hrename)

/-- A second save is cut short while it writes. The first one stays, and the part that was written is
left under the temporary name. -/
theorem reachable_atomic_after_crash : ∃ usage : Usage,
    Reachable ⟨"state"⟩ .empty usage ∧ Atomic ⟨"state"⟩ .empty usage ∧
      usage.saves.map Save.rest? = [some (.done (.ok ())), none] ∧
      usage.directory.entry? (CursorFile.temporaryName "a") = some (.file [0x7B]) ∧
      CursorStore.loaded ⟨"state"⟩ usage.directory "a" = .ok (some 5) := by
  have hinitial : Reachable ⟨"state"⟩ .empty ⟨.empty, [], []⟩ := .refl
  have hfirst := (hinitial.begin "a" 5 (by simp) (by decide)).complete rfl rfl
  have hfree : ∀ save ∈ ([] ++ [⟨"a", 5, some (.done (.ok ()))⟩] : List Save), save.IsUnderWay →
      CursorStore.path ⟨"state"⟩ save.account ≠ CursorStore.path ⟨"state"⟩ "a" := by
    intro save hmem hunderWay
    obtain rfl : save = ⟨"a", 5, some (.done (.ok ()))⟩ := by simpa using hmem
    obtain ⟨operation, next, hrest⟩ := hunderWay
    cases hrest
  have hsecond := hfirst.begin "a" 7 hfree (by decide)
  have htorn := hsecond.tail (@Step.tear _ _ _ _ _ _ _ _ _ _ [0x7B] _ rfl)
  have hstopped := htorn.tail .stop
  have hatomic := reachable_atomic hstopped
  exact ⟨_, hstopped, hatomic, rfl, rfl, hatomic.loaded_of_last "a" 5 rfl⟩

end Usage

end EventRelay.CursorStore
