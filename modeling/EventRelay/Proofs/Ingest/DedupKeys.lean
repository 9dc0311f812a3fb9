import EventRelay.Ingest.Mail
import EventRelay.Proofs.Ingest.GitHubKeys
import EventRelay.Proofs.Ingest.TrelloLists
import EventRelay.Proofs.Text.Separator
import Mathlib.Tactic.SplitIfs

namespace EventRelay

open Pipeline

namespace Source

theorem colon_notMem_tag (source : Source) : ':' ∉ source.tag.toList := by
  cases source <;> decide

theorem tag_inj {first second : Source} : first.tag = second.tag ↔ first = second := by
  cases first <;> cases second <;> decide

end Source

namespace Event

/-- An event that a source makes. The ids of messages hold no colon; those of cards may, and so may the
names of accounts. -/
inductive Produced : Event → Prop
  | trello {board : Board} {body : List UInt8} {event : Event}
      (hevent : Trello.event? board body = some event) : Produced event
  | github {tag : String} {mode : NotifyMode} {body : List UInt8} {event : Event}
      (hevent : GitHub.event? tag mode body = some event) : Produced event
  | mail (account : String) {message : MailMessage} (hid : ':' ∉ message.id.toList) :
      Produced (message.toEvent account)

/-- The kind of event that a source makes under a discriminator. -/
def kindOf : Source → String → String
  | .cardMove, _ => Trello.cardMoved
  | .comment, _ => Trello.commentAdded
  | .ciResult, discriminator => discriminator
  | .mail, _ => MailMessage.messageAdded

/-- What the source of an event says about the other parts of its key: which of them is free of the sign
that joins them. -/
structure Keyed (event : Event) : Prop where
  kind_eq : event.kind = kindOf event.source event.discriminator
  subject_free : event.source = .mail → ':' ∉ event.subject.toList
  discriminator_free : event.source ≠ .mail → ':' ∉ event.discriminator.toList

variable {first second : Event}

theorem toList_dedupKey (event : Event) :
    event.dedupKey.toList = event.source.tag.toList ++
      ':' :: (event.subject.toList ++ ':' :: event.discriminator.toList) := by
  simp [dedupKey]

theorem Keyed.dedupKey_eq_iff (hfirst : first.Keyed) (hsecond : second.Keyed) :
    first.dedupKey = second.dedupKey ↔ first.source = second.source ∧ first.kind = second.kind ∧
      first.subject = second.subject ∧ first.discriminator = second.discriminator := by
  constructor
  · intro hkey
    have hlists := congrArg String.toList hkey
    rw [toList_dedupKey, toList_dedupKey] at hlists
    -- A tag ends at the first colon; the source then tells where the rest is joined.
    obtain ⟨htag, hrest⟩ := append_cons_inj_of_first (Source.colon_notMem_tag _)
      (Source.colon_notMem_tag _) hlists
    have hsource : first.source = second.source := Source.tag_inj.1 (String.toList_inj.1 htag)
    have hparts : first.subject.toList = second.subject.toList ∧
        first.discriminator.toList = second.discriminator.toList := by
      by_cases hmail : first.source = .mail
      · have hmail' : second.source = .mail := hsource ▸ hmail
        exact append_cons_inj_of_first (hfirst.subject_free hmail) (hsecond.subject_free hmail') hrest
      · have hmail' : second.source ≠ .mail := hsource ▸ hmail
        exact append_cons_inj (hfirst.discriminator_free hmail) (hsecond.discriminator_free hmail')
          hrest
    have hdiscriminator : first.discriminator = second.discriminator := String.toList_inj.1 hparts.2
    refine ⟨hsource, ?_, String.toList_inj.1 hparts.1, hdiscriminator⟩
    rw [hfirst.kind_eq, hsecond.kind_eq, hsource, hdiscriminator]
  · rintro ⟨hsource, -, hsubject, hdiscriminator⟩
    rw [dedupKey, dedupKey, hsource, hsubject, hdiscriminator]

end Event

namespace Trello

theorem Call.keyed_of_event? {board : Board} {call : Call} {event : Event}
    (hevent : call.event? board = some event) : event.Keyed := by
  by_cases hmove : call.action = "updateCard"
  · obtain ⟨-, list, -, -, rfl⟩ := (Call.event?_of_move hmove).1 hevent
    refine ⟨rfl, fun hmail => ?_, fun _ => ?_⟩
    · cases hmail
    · change ':' ∉ call.action.toList
      rw [hmove]
      decide
  · rw [Call.event?, if_neg hmove] at hevent
    split_ifs at hevent with hcomment
    cases hevent
    refine ⟨rfl, fun hmail => ?_, fun _ => ?_⟩
    · cases hmail
    · change ':' ∉ call.action.toList
      rw [hcomment]
      decide

end Trello

namespace Event

variable {first second : Event}

theorem Produced.keyed {event : Event} (hproduced : event.Produced) : event.Keyed := by
  cases hproduced with
  | @trello board body _ hevent =>
    cases hcall : Trello.Call.decoder.run body with
    | ok call => exact Trello.Call.keyed_of_event? ((Trello.event?_eq hcall).symm.trans hevent)
    | error fault =>
      rw [Trello.event?, hcall] at hevent
      cases hevent
  | @github tag mode body _ hevent =>
    cases hcall : GitHub.Call.decoder.run body with
    | ok call =>
      obtain ⟨occurrence, rfl, rfl⟩ := GitHub.exists_of_event? hevent hcall
      refine ⟨rfl, fun hmail => ?_, fun _ => occurrence.colon_notMem_tag⟩
      cases hmail
    | error fault =>
      rw [GitHub.event?, hcall] at hevent
      split at hevent <;> cases hevent
  | mail account hid => exact ⟨rfl, fun _ => hid, fun hother => absurd rfl hother⟩

/-- Two events are taken for repetitions of each other only if they report the same. -/
structure ToldApart (first second : Event) : Prop where
  dedupKey_eq_iff : first.dedupKey = second.dedupKey ↔ first.source = second.source ∧
    first.kind = second.kind ∧ first.subject = second.subject ∧
      first.discriminator = second.discriminator
  /-- If they differ, then whatever else is delivered and however often the deduplicator is swept, the
  first has the outcome that it has without the second. -/
  unaffected : ¬ (first.source = second.source ∧ first.kind = second.kind ∧
      first.subject = second.subject ∧ first.discriminator = second.discriminator) →
    ∀ (ttl : Nat) (before between : List Occasion) (setting setting' : Setting)
      (rules rules' : List Rule),
      (setting.play (process first rules)
          (Course.after ttl (before ++ .delivery setting' second rules' :: between)).scene).1 =
        (setting.play (process first rules) (Course.after ttl (before ++ between)).scene).1

/-- Ids and names may hold the sign that joins the parts of a key, and still no two events that differ in
source, kind, subject or discriminator share one. -/
theorem produced_told_apart (hfirst : first.Produced) (hsecond : second.Produced) :
    ToldApart first second := by
  have hkeys := hfirst.keyed.dedupKey_eq_iff hsecond.keyed
  refine ⟨hkeys, fun hdiffer => ?_⟩
  have hother : second.dedupKey ≠ first.dedupKey := fun hkey => hdiffer (hkeys.1 hkey.symm)
  exact outcome_without_other_key hother

/-- One message id in two accounts, of which the name of one ends with that of the other. -/
theorem produced_told_apart_of_accounts :
    let message : MailMessage := ⟨"18c", "", [], "", "", ""⟩
    ':' ∉ message.id.toList ∧ ToldApart (message.toEvent "a") (message.toEvent "b:a") ∧
      (message.toEvent "a").dedupKey ≠ (message.toEvent "b:a").dedupKey := by
  intro message
  have hid : ':' ∉ message.id.toList := by decide
  have happart : ToldApart (message.toEvent "a") (message.toEvent "b:a") :=
    produced_told_apart (.mail "a" hid) (.mail "b:a" hid)
  refine ⟨hid, happart, fun hkey => ?_⟩
  have hsame := (happart.dedupKey_eq_iff.1 hkey).2.2.2
  exact absurd hsame (by decide)

end Event

end EventRelay
