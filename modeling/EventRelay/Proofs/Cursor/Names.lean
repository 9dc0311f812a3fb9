import EventRelay.Cursor.Store
import Mathlib.Data.String.Basic

namespace EventRelay

/-- A name that stands for something in a directory itself, not above it and not below. -/
structure FileName.IsChild (name : String) : Prop where
  no_slash : '/' ∉ name.toList
  nonempty : name ≠ ""
  not_here : name ≠ "."
  not_above : name ≠ ".."

/-- No two names in a directory have one path. -/
theorem Text.joinPath_inj {directory first second : String} :
    joinPath directory first = joinPath directory second ↔ first = second := by
  simp only [joinPath]
  split <;> simp [String.append_right_inj]

namespace CursorFile

theorem safeChar_ne_nil (c : Char) : safeChar c ≠ [] := by
  unfold safeChar
  split <;> simp

theorem slash_notMem_safeChar (c : Char) : '/' ∉ safeChar c := by
  unfold safeChar
  split <;> simp_all [eq_comm]

@[simp] theorem toList_safeName (account : String) :
    (safeName account).toList = account.toList.flatMap safeChar :=
  String.toList_ofList

theorem safeName_eq_empty_iff {account : String} : safeName account = "" ↔ account = "" := by
  rw [← String.toList_inj, ← String.toList_inj, toList_safeName]
  cases account.toList with
  | nil => rfl
  | cons c rest => simp [safeChar_ne_nil]

/-- The name of a file without its ending. -/
def stem (account : String) : String :=
  if account = "" then "gmail-state" else "gmail-state-" ++ safeName account

theorem name_eq (account : String) : name account = stem account ++ ".json" := by
  unfold name stem
  split
  · decide
  · rfl

theorem temporaryName_eq (account : String) :
    temporaryName account = stem account ++ ".json.tmp" := by
  rw [temporaryName, name_eq, String.append_assoc]
  rfl

/-- The unnamed account has a file of its own. -/
theorem stem_empty_ne {account : String} (hnamed : account ≠ "") : stem "" ≠ stem account := by
  intro hstem
  have hlength := congrArg (List.length ∘ String.toList) hstem
  simp [stem, hnamed] at hlength

theorem stem_inj {first second : String} :
    stem first = stem second ↔ safeName first = safeName second := by
  have hempty : safeName "" = "" := safeName_eq_empty_iff.2 rfl
  obtain rfl | hfirst := eq_or_ne first ""
  · obtain rfl | hsecond := eq_or_ne second ""
    · simp
    · rw [hempty, eq_comm, eq_comm (a := ""), safeName_eq_empty_iff]
      exact iff_of_false (stem_empty_ne hsecond).symm hsecond
  · obtain rfl | hsecond := eq_or_ne second ""
    · rw [hempty, safeName_eq_empty_iff]
      exact iff_of_false (stem_empty_ne hfirst).symm hfirst
    · rw [stem, stem, if_neg hfirst, if_neg hsecond, String.append_right_inj]

theorem name_inj {first second : String} :
    name first = name second ↔ safeName first = safeName second := by
  rw [name_eq, name_eq, String.append_left_inj, stem_inj]

theorem temporaryName_inj {first second : String} :
    temporaryName first = temporaryName second ↔ name first = name second := by
  rw [temporaryName, temporaryName, String.append_left_inj]

/-- A name that a position is written under first is the name of no account's file. -/
theorem temporaryName_ne_name (account other : String) : temporaryName account ≠ name other := by
  intro hname
  rw [temporaryName_eq, name_eq] at hname
  have hlast := congrArg (List.getLast? ∘ String.toList) hname
  simp at hlast

theorem slash_notMem_stem (account : String) : '/' ∉ (stem account).toList := by
  unfold stem
  split
  · decide
  · simp [slash_notMem_safeChar]

/-- Whatever follows the stem of a name, there are more than two characters. -/
theorem isChild_stem_append (account ending : String) (hending : '/' ∉ ending.toList) :
    FileName.IsChild (stem account ++ ending) := by
  have hlong : 2 < (stem account ++ ending).toList.length := by
    unfold stem
    split <;> simp
  refine ⟨by simp [slash_notMem_stem, hending], ?_, ?_, ?_⟩ <;>
  · intro hname
    rw [hname] at hlong
    revert hlong
    decide

theorem isChild_name (account : String) : FileName.IsChild (name account) := by
  rw [name_eq]
  exact isChild_stem_append account _ (by decide)

theorem isChild_temporaryName (account : String) : FileName.IsChild (temporaryName account) := by
  rw [temporaryName_eq]
  exact isChild_stem_append account _ (by decide)

end CursorFile

theorem CursorStore.path_inj {store : CursorStore} {first second : String} :
    store.path first = store.path second ↔ CursorFile.name first = CursorFile.name second :=
  Text.joinPath_inj

end EventRelay
