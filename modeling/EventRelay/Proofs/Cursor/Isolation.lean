import EventRelay.Proofs.Choice
import EventRelay.Proofs.Cursor.Atomicity
import EventRelay.Proofs.Relay.Pollers
import EventRelay.Proofs.Text.Separator
import Mathlib.Data.List.Forall2
import Mathlib.Tactic.SplitIfs

namespace EventRelay

namespace CursorFile

/-- What is left of an address in the name of a file: an underscore for a slash, `_at_` for an at sign,
and all other characters. -/
inductive Leaves : List Char → List Char → Prop
  | nil : Leaves [] []
  | slash {email name : List Char} (hrest : Leaves email name) : Leaves ('/' :: email) ('_' :: name)
  | atSign {email name : List Char} (hrest : Leaves email name) :
      Leaves ('@' :: email) ('_' :: 'a' :: 't' :: '_' :: name)
  | other {c : Char} {email name : List Char} (hslash : c ≠ '/') (hat : c ≠ '@')
      (hrest : Leaves email name) : Leaves (c :: email) (c :: name)

theorem safeChar_of_ne {c : Char} (hslash : c ≠ '/') (hat : c ≠ '@') : safeChar c = [c] := by
  unfold safeChar
  split <;> simp_all

theorem leaves_iff {email name : List Char} : Leaves email name ↔ email.flatMap safeChar = name := by
  constructor
  · intro hleaves
    induction hleaves with
    | nil => rfl
    | slash _ ih | atSign _ ih => rw [List.flatMap_cons, ih]; rfl
    | other hslash hat _ ih =>
      rw [List.flatMap_cons, ih, safeChar_of_ne hslash hat]
      rfl
  · rintro rfl
    induction email with
    | nil => exact .nil
    | cons c email ih =>
      rw [List.flatMap_cons]
      by_cases hslash : c = '/'
      · subst hslash
        exact .slash ih
      · by_cases hat : c = '@'
        · subst hat
          exact .atSign ih
        · rw [safeChar_of_ne hslash hat]
          exact .other hslash hat ih

theorem safeName_inj {first second : String} : safeName first = safeName second ↔
    ∃ name, Leaves first.toList name ∧ Leaves second.toList name := by
  simp only [leaves_iff, ← String.toList_inj, toList_safeName]
  exact ⟨fun heq => ⟨_, rfl, heq.symm⟩, fun ⟨_, hfirst, hsecond⟩ => hfirst.trans hsecond.symm⟩

/-- An address as it is common: a user, an at sign and a domain. Slashes are left out, and underscores
from the domain. -/
def IsAddress (email : String) : Prop :=
  ∃ user domain : List Char, email.toList = user ++ '@' :: domain ∧
    (∀ c ∈ user, c ≠ '/' ∧ c ≠ '@') ∧ (∀ c ∈ domain, c ≠ '/' ∧ c ≠ '@' ∧ c ≠ '_')

theorem flatMap_safeChar {text : List Char} (hplain : ∀ c ∈ text, c ≠ '/' ∧ c ≠ '@') :
    text.flatMap safeChar = text := by
  induction text with
  | nil => rfl
  | cons c rest ih =>
    obtain ⟨⟨hslash, hat⟩, hrest⟩ := List.forall_mem_cons.1 hplain
    rw [List.flatMap_cons, ih hrest, safeChar_of_ne hslash hat]
    rfl

theorem safeName_inj_of_isAddress {first second : String} (hfirst : IsAddress first)
    (hsecond : IsAddress second) : safeName first = safeName second ↔ first = second := by
  refine ⟨fun hname => ?_, congrArg _⟩
  obtain ⟨user, domain, hemail, huser, hdomain⟩ := hfirst
  obtain ⟨user', domain', hemail', huser', hdomain'⟩ := hsecond
  have hsafe {user domain : List Char} (huser : ∀ c ∈ user, c ≠ '/' ∧ c ≠ '@')
      (hdomain : ∀ c ∈ domain, c ≠ '/' ∧ c ≠ '@' ∧ c ≠ '_') :
      (user ++ '@' :: domain).flatMap safeChar = (user ++ ['_', 'a', 't']) ++ '_' :: domain := by
    rw [List.flatMap_append, List.flatMap_cons, flatMap_safeChar huser,
      flatMap_safeChar fun c hc => ⟨(hdomain c hc).1, (hdomain c hc).2.1⟩]
    simp [safeChar]
  have hlists := congrArg String.toList hname
  rw [toList_safeName, toList_safeName, hemail, hemail', hsafe huser hdomain,
    hsafe huser' hdomain'] at hlists
  obtain ⟨husers, rfl⟩ := append_cons_inj (fun hmem => (hdomain _ hmem).2.2 rfl)
    (fun hmem => (hdomain' _ hmem).2.2 rfl) hlists
  rw [← String.toList_inj, hemail, hemail', List.append_cancel_right husers]

end CursorFile

namespace MailAccount

/-- Two characters leave the same in the name of a variable: letters that differ in their case at most,
the same digit, or any two characters that are neither letters nor digits. -/
def Alike (c d : Char) : Prop :=
  c.toLower = d.toLower ∨ c.isAlphanum = false ∧ d.isAlphanum = false

theorem variableChar_eq_iff {c d : Char} : variableChar c = variableChar d ↔ Alike c d := by
  have hunderscore : '_'.toNat = 95 := rfl
  simp only [variableChar, Alike, ← Text.isAsciiAlphanumeric_eq_isAlphanum, Bool.eq_false_iff, ne_eq,
    ← Char.toNat_inj, apply_ite Char.toNat, Text.isAsciiAlphanumeric_iff, Text.toNat_asciiUpper,
    Text.toNat_toLower, hunderscore]
  split_ifs <;> omega

theorem map_variableChar_eq_iff {text text' : List Char} :
    text.map variableChar = text'.map variableChar ↔ List.Forall₂ Alike text text' := by
  rw [← List.forall₂_eq_eq_eq, List.forall₂_map_left_iff, List.forall₂_map_right_iff]
  simp only [variableChar_eq_iff]

variable {account first second : MailAccount}

theorem tokenVariable_of_unset (hunset : ∀ name, account.tokenVariable? = some name → name = "") :
    account.tokenVariable = if account.email = "" then "GMAIL_TOKEN"
      else "GMAIL_TOKEN_" ++ String.ofList (account.email.toList.map variableChar) := by
  rw [tokenVariable, bind_nonempty?_eq_none_iff.2 hunset]

theorem tokenVariable_unnamed_ne (name : List Char) :
    "GMAIL_TOKEN" ≠ "GMAIL_TOKEN_" ++ String.ofList name := by
  intro hvariable
  have hlength := congrArg (List.length ∘ String.toList) hvariable
  simp at hlength

/-- Two accounts that name no variable share one exactly if their addresses are alike, character by
character. -/
theorem tokenVariable_eq_iff (hfirst : ∀ name, first.tokenVariable? = some name → name = "")
    (hsecond : ∀ name, second.tokenVariable? = some name → name = "") :
    first.tokenVariable = second.tokenVariable ↔
      List.Forall₂ Alike first.email.toList second.email.toList := by
  rw [tokenVariable_of_unset hfirst, tokenVariable_of_unset hsecond, ← map_variableChar_eq_iff]
  obtain hempty | hnamed := eq_or_ne first.email ""
  · obtain hempty' | hnamed' := eq_or_ne second.email ""
    · simp [hempty, hempty']
    · rw [if_pos hempty, if_neg hnamed', hempty]
      refine iff_of_false (tokenVariable_unnamed_ne _) fun hmap => hnamed' ?_
      simpa using hmap.symm
  · obtain hempty' | hnamed' := eq_or_ne second.email ""
    · rw [if_neg hnamed, if_pos hempty', hempty']
      refine iff_of_false (tokenVariable_unnamed_ne _).symm fun hmap => hnamed ?_
      simpa using hmap
    · rw [if_neg hnamed, if_neg hnamed', String.append_right_inj, String.ofList_inj]

end MailAccount

namespace CursorStore

open Usage

/-- Whatever becomes of saves on one path, loads on another give what they gave before. -/
theorem Usage.Reachable.loaded_eq {store : CursorStore} {initial : Directory} {usage : Usage}
    {account : String} (hreachable : Reachable store initial usage)
    (helsewhere : ∀ save ∈ usage.saves, store.path save.account ≠ store.path account) :
    store.loaded usage.directory account = store.loaded initial account := by
  have hlast : usage.last? store account = none := by
    rw [last?, List.findSome?_eq_none_iff]
    intro place _
    rw [offer, Option.bind_eq_none_iff]
    intro save hsave
    exact if_neg (helsewhere save (List.mem_of_getElem? hsave))
  rw [hreachable.sound.answers, expected, hlast]
  rfl

end CursorStore

namespace Relay

/-- How far two pollers keep apart. -/
structure Apart (environment : Environment) (store : CursorStore) (first second : PollerPlan) :
    Prop where
  /-- They share a file exactly if their addresses are the same once slashes and at signs have been
  replaced. -/
  path_eq_iff : store.path first.poller.account = store.path second.poller.account ↔
    ∃ name, CursorFile.Leaves first.account.email.toList name ∧
      CursorFile.Leaves second.account.email.toList name
  /-- Addresses of the common form have files of their own. -/
  path_ne : CursorFile.IsAddress first.account.email → CursorFile.IsAddress second.account.email →
    store.path first.poller.account ≠ store.path second.poller.account
  /-- With files of their own, saves for the one never change what is loaded for the other, whatever
  fails. -/
  loaded_eq : store.path first.poller.account ≠ store.path second.poller.account →
    ∀ initial usage, CursorStore.Usage.Reachable store initial usage →
      (∀ save ∈ usage.saves, save.account = first.poller.account) →
        store.loaded usage.directory second.poller.account =
          store.loaded initial second.poller.account
  /-- With one file they always load the same. -/
  loaded_same : store.path first.poller.account = store.path second.poller.account →
    ∀ directory, store.loaded directory first.poller.account =
      store.loaded directory second.poller.account
  reads_token : environment first.account.tokenVariable = some first.token ∧
    environment second.account.tokenVariable = some second.token
  /-- Unless one of them names a variable, they share one exactly if their addresses are the same up
  to case and characters other than letters and digits. -/
  tokenVariable_eq_iff : (∀ name, first.account.tokenVariable? = some name → name = "") →
    (∀ name, second.account.tokenVariable? = some name → name = "") →
      (first.account.tokenVariable = second.account.tokenVariable ↔
        List.Forall₂ MailAccount.Alike first.account.email.toList second.account.email.toList)

/-- Two pollers with different addresses keep apart as far as the addresses differ in what is left of
them in names of files and of variables. -/
theorem pollers_apart {environment : Environment} {settings : Settings} {rules : RulesFile}
    {first second : PollerPlan} (hfirst : first ∈ (Relay.new environment settings rules).pollers)
    (hsecond : second ∈ (Relay.new environment settings rules).pollers)
    (hemail : first.account.email ≠ second.account.email) :
    Apart environment ⟨settings.stateDir⟩ first second := by
  obtain ⟨-, -, htoken, -⟩ := mem_pollers_iff.1 hfirst
  obtain ⟨-, -, htoken', -⟩ := mem_pollers_iff.1 hsecond
  have hpath : CursorStore.path ⟨settings.stateDir⟩ first.poller.account =
      CursorStore.path ⟨settings.stateDir⟩ second.poller.account ↔
        CursorFile.safeName first.account.email = CursorFile.safeName second.account.email :=
    CursorStore.path_inj.trans CursorFile.name_inj
  refine ⟨hpath.trans CursorFile.safeName_inj, ?_, ?_, ?_, ⟨htoken, htoken'⟩,
    MailAccount.tokenVariable_eq_iff⟩
  · intro haddress haddress' hsame
    exact hemail ((CursorFile.safeName_inj_of_isAddress haddress haddress').1 (hpath.1 hsame))
  · intro hne initial usage hreachable hsaves
    refine hreachable.loaded_eq fun save hmem => ?_
    rw [hsaves save hmem]
    exact hne
  · exact fun hsame directory => CursorStore.loaded_eq_of_path_eq hsame

/-- A relay that polls two mailboxes, with one token for both. -/
def polling (first second : String) : Relay :=
  .new (fun _ => some "t")
    ⟨8080, "data", "relay.json", none, 60, ⟨"", "", "main", "model"⟩, "", none, "", .all, ""⟩
    ⟨.empty, [], ⟨none, [⟨first, none, none, []⟩, ⟨second, none, none, []⟩], []⟩⟩

/-- The poller of one of them. -/
def plan (email : String) : PollerPlan :=
  ⟨⟨email, none, none, []⟩, "t", 60⟩

/-- Two common addresses. -/
theorem pollers_apart_of_addresses :
    plan "a@example.com" ∈ (polling "a@example.com" "a_b@example.com").pollers ∧
      plan "a_b@example.com" ∈ (polling "a@example.com" "a_b@example.com").pollers ∧
      Apart (fun _ => some "t") ⟨"data"⟩ (plan "a@example.com") (plan "a_b@example.com") ∧
      CursorStore.path ⟨"data"⟩ "a@example.com" ≠ CursorStore.path ⟨"data"⟩ "a_b@example.com" := by
  have hfirst : plan "a@example.com" ∈ (polling "a@example.com" "a_b@example.com").pollers := by
    decide
  have hsecond : plan "a_b@example.com" ∈ (polling "a@example.com" "a_b@example.com").pollers := by
    decide
  have hapart := pollers_apart hfirst hsecond (by decide)
  have haddress : CursorFile.IsAddress "a@example.com" :=
    ⟨['a'], "example.com".toList, by decide, by simp, by simp⟩
  have haddress' : CursorFile.IsAddress "a_b@example.com" :=
    ⟨"a_b".toList, "example.com".toList, by decide, by simp, by simp⟩
  exact ⟨hfirst, hsecond, hapart, hapart.path_ne haddress haddress'⟩

/-- Two addresses of which one has a slash where the other has an underscore. A position that is saved
for the one is loaded for the other, and both read one variable. -/
theorem exists_pollers_sharing : ∃ first second : PollerPlan,
    first ∈ (polling "a/b@example.com" "a_b@example.com").pollers ∧
      second ∈ (polling "a/b@example.com" "a_b@example.com").pollers ∧
      first.account.email ≠ second.account.email ∧
      first.account.tokenVariable? = none ∧ second.account.tokenVariable? = none ∧
      first.account.tokenVariable = second.account.tokenVariable ∧
      CursorStore.path ⟨"data"⟩ first.poller.account =
        CursorStore.path ⟨"data"⟩ second.poller.account ∧
      CursorStore.loaded ⟨"data"⟩ .empty second.poller.account = .ok none ∧
      CursorStore.loaded ⟨"data"⟩ ((CursorStore.save ⟨"data"⟩ first.poller.account 5).run
        Directory.perform .empty).2 second.poller.account = .ok (some 5) := by
  refine ⟨plan "a/b@example.com", plan "a_b@example.com", by decide, by decide, by decide, rfl, rfl,
    by decide, by decide, ?_, ?_⟩
  · exact CursorStore.loaded_of_absent (by decide) (by decide) (by decide)
  · exact CursorStore.loaded_of_file rfl (by decide) rfl

end Relay

end EventRelay
