import EventRelay.Ingest.Mail
import EventRelay.Proofs.Text.Trim
import EventRelay.Rule.MailMatch

namespace EventRelay

open Text

/-- A label as mailboxes give them: without commas, and without blanks at its ends. -/
structure IsLabel (label : String) : Prop where
  comma_notMem : ',' ∉ label.toList
  bare : Bare label.toList

namespace MailMessage

variable {message : MailMessage}

theorem facts_labels (account : String) (message : MailMessage) :
    (message.toEvent account).facts.get Fact.labels = ",".intercalate message.labels :=
  rfl

theorem facts_sender (account : String) (message : MailMessage) :
    (message.toEvent account).facts.get Fact.sender = message.sender :=
  rfl

theorem splitOn_intercalate_labels {labels : List String} (hlabels : ∀ label ∈ labels, IsLabel label)
    (hsome : labels ≠ []) :
    (",".intercalate labels).toList.splitOn ',' = labels.map String.toList := by
  rw [String.toList_intercalate]
  refine List.splitOn_intercalate ',' ?_ (by simpa using hsome)
  intro text htext
  obtain ⟨label, hlabel, rfl⟩ := List.mem_map.1 htext
  exact (hlabels label hlabel).comma_notMem

/-- The labels of a mail are found in its facts as they were. Without labels one is found, the empty
one. -/
theorem presentLabels_toEvent (account : String) (hlabels : ∀ label ∈ message.labels, IsLabel label) :
    MailMatch.presentLabels (message.toEvent account).facts =
      if message.labels = [] then [""] else message.labels := by
  rw [MailMatch.presentLabels, facts_labels]
  by_cases hnone : message.labels = []
  · rw [if_pos hnone, hnone]
    rfl
  · rw [if_neg hnone, splitOn_intercalate_labels hlabels hnone, List.map_map]
    have hkept : ∀ label ∈ message.labels, String.ofList (trim label.toList) = label := by
      intro label hlabel
      rw [(hlabels label hlabel).bare.trim_eq, String.ofList_toList]
    exact (List.map_congr_left hkept).trans (List.map_id' _)

theorem mem_presentLabels_iff (account : String) (hlabels : ∀ label ∈ message.labels, IsLabel label)
    {label : String} (hlabel : label ≠ "") :
    label ∈ MailMatch.presentLabels (message.toEvent account).facts ↔ label ∈ message.labels := by
  rw [presentLabels_toEvent account hlabels]
  by_cases hnone : message.labels = []
  · simp [hnone, hlabel]
  · rw [if_neg hnone]

end MailMessage

namespace MailMatch

variable {required : MailMatch} {message : MailMessage}

/-- What a mail match finds in the facts of a mail. -/
structure Faithful (required : MailMatch) (account : String) (message : MailMessage) : Prop where
  holds_iff : required.holds (message.toEvent account).facts = true ↔
    (∀ label ∈ required.labels, label ∈ message.labels) ∧
      (required.senders = [] ∨ ∃ pattern ∈ required.senders,
        senderFits message.sender.toList pattern.toList = true)
  /-- The labels come in their order and number. Of none, an empty one is made, and nothing asks for that. -/
  presentLabels_eq : presentLabels (message.toEvent account).facts =
    if message.labels = [] then [""] else message.labels

theorem labelsFit_iff {facts : Fields} :
    required.labelsFit facts = true ↔ ∀ label ∈ required.labels, label ∈ presentLabels facts := by
  simp only [labelsFit, List.all_eq_true, List.contains_iff_mem]

theorem sendersFit_iff {facts : Fields} :
    required.sendersFit facts = true ↔ required.senders = [] ∨ ∃ pattern ∈ required.senders,
      senderFits (facts.get Fact.sender).toList pattern.toList = true := by
  simp only [sendersFit, Bool.or_eq_true, List.isEmpty_iff, List.any_eq_true]

/-- A mail fits exactly if it carries all labels that are asked for, and its sender fits a pattern. -/
theorem faithful_of_labels (account : String) (hlabels : ∀ label ∈ message.labels, IsLabel label)
    (hrequired : ∀ label ∈ required.labels, label ≠ "") : Faithful required account message where
  holds_iff := by
    rw [holds, Bool.and_eq_true, labelsFit_iff, sendersFit_iff, MailMessage.facts_sender]
    refine and_congr_left' (forall₂_congr fun label hlabel => ?_)
    exact MailMessage.mem_presentLabels_iff account hlabels (hrequired label hlabel)
  presentLabels_eq := MailMessage.presentLabels_toEvent account hlabels

/-- A mail without labels, of which one is asked for, and one with a label that holds blanks. -/
theorem faithful_of_labels_of_none :
    let required : MailMatch := ⟨["*@github.com"], ["My Label"]⟩
    let unlabelled : MailMessage := ⟨"18c", "", [], "", "ci@GitHub.com", ""⟩
    let labelled : MailMessage := ⟨"18d", "", ["INBOX", "My Label"], "", "ci@GitHub.com", ""⟩
    (∀ label ∈ unlabelled.labels, IsLabel label) ∧ (∀ label ∈ labelled.labels, IsLabel label) ∧
      (∀ label ∈ required.labels, label ≠ "") ∧
      required.holds (unlabelled.toEvent "a").facts = false ∧
      required.holds (labelled.toEvent "a").facts = true := by
  intro required unlabelled labelled
  have hunlabelled : ∀ label ∈ unlabelled.labels, IsLabel label := List.forall_mem_nil _
  have hlabelled : ∀ label ∈ labelled.labels, IsLabel label := by
    simp only [labelled, List.forall_mem_cons]
    exact ⟨⟨by decide, by decide⟩, ⟨by decide, by decide⟩, List.forall_mem_nil _⟩
  have hrequired : ∀ label ∈ required.labels, label ≠ "" := by decide
  refine ⟨hunlabelled, hlabelled, hrequired, ?_, ?_⟩
  · rw [Bool.eq_false_iff, ne_eq, (faithful_of_labels "a" hunlabelled hrequired).holds_iff]
    decide +kernel
  · rw [(faithful_of_labels "a" hlabelled hrequired).holds_iff]
    decide +kernel

end MailMatch

end EventRelay
