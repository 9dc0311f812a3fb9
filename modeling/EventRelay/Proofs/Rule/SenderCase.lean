import EventRelay.Proofs.Pipeline.Reference
import EventRelay.Proofs.Rule.Labels
import EventRelay.Proofs.Text.Casing
import Mathlib.Data.List.Forall2

namespace EventRelay

open Text

/-- Texts that differ in nothing but the case of ASCII letters. -/
def AsciiAlike (text text' : String) : Prop :=
  text.toList.map asciiLower = text'.toList.map asciiLower

instance (text text' : String) : Decidable (AsciiAlike text text') :=
  inferInstanceAs (Decidable (_ = _))

theorem AsciiAlike.symm {text text' : String} (halike : AsciiAlike text text') :
    AsciiAlike text' text :=
  Eq.symm halike

/-- Rules that differ in nothing but the case of ASCII letters in patterns for senders. -/
structure Rule.Alike (rule rule' : Rule) : Prop where
  senders : List.Forall₂ AsciiAlike rule.mailMatch.senders rule'.mailMatch.senders
  others : rule' = { rule with mailMatch := ⟨rule'.mailMatch.senders, rule.mailMatch.labels⟩ }

/-- Messages that differ in nothing but the case of ASCII letters in the sender. -/
structure MailMessage.Alike (message message' : MailMessage) : Prop where
  sender : AsciiAlike message.sender message'.sender
  others : message' = { message with sender := message'.sender }

namespace MailMatch

theorem senderFits_congr {sender sender' pattern pattern' : List Char}
    (hsender : sender.map asciiLower = sender'.map asciiLower)
    (hpattern : pattern.map asciiLower = pattern'.map asciiLower) :
    senderFits sender pattern = senderFits sender' pattern' := by
  have hlower {text text' : List Char} (halike : text.map asciiLower = text'.map asciiLower) :
      lowercase text = lowercase text' := by
    rw [← lowercase_map_asciiLower, halike, lowercase_map_asciiLower]
  rw [senderFits, senderFits, hlower hsender, hlower hpattern]

variable {required required' : MailMatch} {facts facts' : Fields}

theorem sendersFit_of_alike (hsenders : List.Forall₂ AsciiAlike required.senders required'.senders)
    (hsender : AsciiAlike (facts.get Fact.sender) (facts'.get Fact.sender))
    (hfits : required.sendersFit facts = true) : required'.sendersFit facts' = true := by
  rw [sendersFit_iff] at hfits ⊢
  obtain hnone | ⟨pattern, hpattern, hfits⟩ := hfits
  · rw [hnone, List.forall₂_nil_left_iff] at hsenders
    exact .inl hsenders
  · obtain ⟨index, hindex, rfl⟩ := List.mem_iff_getElem.1 hpattern
    have hindex' : index < required'.senders.length := hsenders.length_eq ▸ hindex
    refine .inr ⟨required'.senders[index], List.getElem_mem hindex', ?_⟩
    rw [← hfits]
    exact (senderFits_congr hsender (hsenders.get hindex hindex')).symm

theorem holds_of_alike (hlabels : required'.labels = required.labels)
    (hpresent : facts'.get Fact.labels = facts.get Fact.labels)
    (hsenders : List.Forall₂ AsciiAlike required.senders required'.senders)
    (hsender : AsciiAlike (facts.get Fact.sender) (facts'.get Fact.sender))
    (hholds : required.holds facts = true) : required'.holds facts' = true := by
  rw [holds, Bool.and_eq_true] at hholds ⊢
  refine ⟨?_, sendersFit_of_alike hsenders hsender hholds.2⟩
  rw [labelsFit, presentLabels, hlabels, hpresent]
  exact hholds.1

end MailMatch

theorem Rule.Alike.symm {rule rule' : Rule} (halike : rule.Alike rule') : rule'.Alike rule where
  senders := halike.senders.flip.imp fun _ _ => AsciiAlike.symm
  others := by rw [halike.others]

theorem MailMessage.Alike.symm {message message' : MailMessage} (halike : message.Alike message') :
    message'.Alike message where
  sender := halike.sender.symm
  others := by rw [halike.others]

theorem MailMessage.Alike.refl (message : MailMessage) : message.Alike message :=
  ⟨rfl, rfl⟩

namespace Rule

variable {account : String} {message message' : MailMessage} {rule rule' : Rule}
  {rules rules' : List Rule}
  {event event' : Event}

theorem Alike.fits (halike : rule.Alike rule') (hmessage : message.Alike message')
    (hcondition : rule.eventKind = MailMessage.messageAdded →
      rule.condition.holds (message.toEvent account).facts =
        rule.condition.holds (message'.toEvent account).facts)
    (hfits : rule.Fits (message.toEvent account)) : rule'.Fits (message'.toEvent account) := by
  obtain ⟨hkind, hholds, hmatch⟩ := hfits
  have hpresent : (message'.toEvent account).facts.get Fact.labels =
      (message.toEvent account).facts.get Fact.labels := by
    rw [MailMessage.facts_labels, MailMessage.facts_labels, hmessage.others]
  have hmatch' : rule'.mailMatch.holds (message'.toEvent account).facts = true :=
    MailMatch.holds_of_alike (by rw [halike.others]) hpresent halike.senders hmessage.sender hmatch
  rw [halike.others] at hmatch' ⊢
  exact ⟨hkind, (hcondition hkind).symm.trans hholds, hmatch'⟩

/-- Whether the condition of a rule about mail holds of a message does not hang on the sender's case. -/
def Indifferent (rules : List Rule) (account : String) (message message' : MailMessage) : Prop :=
  ∀ rule ∈ rules, rule.eventKind = MailMessage.messageAdded →
    rule.condition.holds (message.toEvent account).facts =
      rule.condition.holds (message'.toEvent account).facts

theorem Decides.of_forall₂
    (hfits : List.Forall₂ (fun rule rule' => rule.Fits event ↔ rule'.Fits event') rules rules')
    {index : Nat} (hdecides : Decides rules event index rule) :
    ∃ rule', Decides rules' event' index rule' := by
  obtain ⟨hat, hfit, hfirst⟩ := hdecides
  obtain ⟨hindex, rfl⟩ := List.getElem?_eq_some_iff.1 hat
  have hlength := hfits.length_eq
  have hindex' : index < rules'.length := hlength ▸ hindex
  refine ⟨rules'[index], List.getElem?_eq_getElem hindex', (hfits.get hindex hindex').1 hfit, ?_⟩
  intro earlier hearlier other hother hother_fits
  obtain ⟨hlt, rfl⟩ := List.getElem?_eq_some_iff.1 hother
  have hlt' : earlier < rules.length := hlength ▸ hlt
  exact hfirst earlier hearlier _ (List.getElem?_eq_getElem hlt')
    ((hfits.get hlt' hlt).2 hother_fits)

theorem forall₂_fits_iff (hrules : List.Forall₂ Rule.Alike rules rules')
    (hmessage : message.Alike message') (hindifferent : Indifferent rules account message message') :
    List.Forall₂ (fun rule rule' => rule.Fits (message.toEvent account) ↔
      rule'.Fits (message'.toEvent account)) rules rules' := by
  refine List.forall₂_iff_get.2 ⟨hrules.length_eq, fun index hindex hindex' => ?_⟩
  have halike : Alike rules[index] rules'[index] := hrules.get hindex hindex'
  have hcondition := hindifferent rules[index] (List.getElem_mem hindex)
  refine ⟨halike.fits hmessage hcondition, halike.symm.fits hmessage.symm ?_⟩
  rw [halike.others]
  exact fun hkind => (hcondition hkind).symm

/-- The same rule decides about two events, by its place in the list. -/
theorem decides_iff_of_forall₂
    (hfits : List.Forall₂ (fun rule rule' => rule.Fits event ↔ rule'.Fits event') rules rules')
    (index : Nat) :
    (∃ rule, Decides rules event index rule) ↔ ∃ rule', Decides rules' event' index rule' :=
  ⟨fun ⟨_, hdecides⟩ => hdecides.of_forall₂ hfits,
    fun ⟨_, hdecides⟩ => hdecides.of_forall₂ (hfits.flip.imp fun _ _ => Iff.symm)⟩

theorem facts_get_of_alike (hmessage : message.Alike message') {fact : String}
    (hfact : fact ≠ Fact.sender) :
    (message.toEvent account).facts.get fact = (message'.toEvent account).facts.get fact := by
  have hfacts (message : MailMessage) : (message.toEvent account).facts.get fact =
      (([(Fact.subject, message.subject), (Fact.labels, ",".intercalate message.labels)] :
        List (String × String)).lookup fact).getD "" := by
    have hentries : (message.toEvent account).facts.entries = [(Fact.sender, message.sender),
      (Fact.subject, message.subject), (Fact.labels, ",".intercalate message.labels)] := rfl
    rw [Fields.get, Fields.get?, hentries, List.lookup_cons, beq_false_of_ne hfact]
  rw [hfacts, hfacts, hmessage.others]

theorem holds_of_unasked (hmessage : message.Alike message') {condition : Condition}
    (hunasked : ∀ literal, .equals Fact.sender literal ∉ condition.clauses) :
    condition.holds (message.toEvent account).facts =
      condition.holds (message'.toEvent account).facts := by
  rw [Condition.holds, Condition.holds]
  congr 1
  rw [Bool.eq_iff_iff, List.any_eq_true, List.any_eq_true]
  refine exists_congr fun clause => and_congr_right fun hclause => ?_
  cases clause with
  | malformed => rfl
  | equals fact literal =>
    have hfact : fact ≠ Fact.sender := by
      rintro rfl
      exact hunasked literal hclause
    rw [Clause.holds, Clause.holds, facts_get_of_alike hmessage hfact]

/-- What the case of ASCII letters in senders, and in patterns for them, has to do with which rule decides
about a mail. -/
structure CaseIgnored (account : String) (rules rules' : List Rule) (message message' : MailMessage) :
    Prop where
  fits : ∀ pattern pattern', AsciiAlike pattern pattern' →
    MailMatch.senderFits message.sender.toList pattern.toList =
      MailMatch.senderFits message'.sender.toList pattern'.toList
  patterns : ∀ index, (∃ rule, Decides rules (message.toEvent account) index rule) ↔
    ∃ rule', Decides rules' (message.toEvent account) index rule'
  /-- Conditions compare character for character, and nothing else looks at the sender's case. -/
  sender : Indifferent rules account message message' →
    ∀ index, (∃ rule, Decides rules (message.toEvent account) index rule) ↔
      ∃ rule', Decides rules' (message'.toEvent account) index rule'
  indifferent : (∀ rule ∈ rules, rule.eventKind = MailMessage.messageAdded →
    ∀ literal, .equals Fact.sender literal ∉ rule.condition.clauses) →
      Indifferent rules account message message'

/-- The case of ASCII letters in patterns makes no difference to which rule decides about a mail, and the
case of those in its sender makes one only through conditions that ask for the sender. -/
theorem caseIgnored_of_alike (account : String) (hrules : List.Forall₂ Rule.Alike rules rules')
    (hmessage : message.Alike message') : CaseIgnored account rules rules' message message' where
  fits _ _ hpattern := MailMatch.senderFits_congr hmessage.sender hpattern
  patterns := by
    have hindifferent : Indifferent rules account message message := fun _ _ _ => rfl
    exact decides_iff_of_forall₂ (forall₂_fits_iff hrules (.refl message) hindifferent)
  sender hindifferent := decides_iff_of_forall₂ (forall₂_fits_iff hrules hmessage hindifferent)
  indifferent hunasked rule hrule hkind := holds_of_unasked hmessage (hunasked rule hrule hkind)

/-- A sigma ends a word after an ASCII letter of either case. -/
theorem caseIgnored_of_alike_after_letter :
    let rule (pattern : String) : Rule := ⟨"", "message_added", .always, ⟨[pattern], []⟩, .unset⟩
    let message (sender : String) : MailMessage := ⟨"18c", "", [], "", sender, ""⟩
    List.Forall₂ Alike [rule "XΣ <", rule "@B"] [rule "xΣ <", rule "@b"] ∧
      (message "XΣ <A@B>").Alike (message "xΣ <a@b>") ∧
      (∃ winner, Decides [rule "XΣ <", rule "@B"] ((message "XΣ <A@B>").toEvent "me") 0 winner) ∧
      ∃ winner, Decides [rule "xΣ <", rule "@b"] ((message "xΣ <a@b>").toEvent "me") 0 winner := by
  intro rule message
  have halike {pattern pattern' : String} (hpatterns : AsciiAlike pattern pattern') :
      (rule pattern).Alike (rule pattern') :=
    ⟨.cons hpatterns .nil, rfl⟩
  have hrules : List.Forall₂ Alike [rule "XΣ <", rule "@B"] [rule "xΣ <", rule "@b"] :=
    .cons (halike (by decide)) (.cons (halike (by decide)) .nil)
  have hmessage : (message "XΣ <A@B>").Alike (message "xΣ <a@b>") := ⟨by decide, rfl⟩
  have hwinner : ∃ winner,
      Decides [rule "XΣ <", rule "@B"] ((message "XΣ <A@B>").toEvent "me") 0 winner :=
    ⟨rule "XΣ <", rfl, ⟨rfl, rfl, by decide +kernel⟩, nofun⟩
  have hignored := caseIgnored_of_alike "me" hrules hmessage
  have hindifferent := hignored.indifferent (by simp [rule, Condition.always])
  exact ⟨hrules, hmessage, hwinner, (hignored.sender hindifferent 0).1 hwinner⟩

/-- A condition asks for the sender as it is written. -/
theorem exists_winner_changed_by_case : ∃ (rules : List Rule) (message message' : MailMessage)
    (rule rule' : Rule), message.Alike message' ∧
      findFirst? rules (message.toEvent "me").kind (message.toEvent "me").facts = some rule ∧
      findFirst? rules (message'.toEvent "me").kind (message'.toEvent "me").facts = some rule' ∧
      rule ≠ rule' := by
  let strict : Rule := ⟨"exact", "message_added", .parse "from == 'ci@x.com'", .anything, .unset⟩
  let other : Rule := ⟨"other", "message_added", .always, .anything, .unset⟩
  exact ⟨[strict, other], ⟨"1", "", [], "", "ci@x.com", ""⟩, ⟨"1", "", [], "", "CI@x.com", ""⟩,
    strict, other, ⟨by decide, rfl⟩, by decide +kernel, by decide +kernel, by decide +kernel⟩

end Rule

end EventRelay
