import EventRelay.Mailbox.Listing
import EventRelay.Proofs.Choice
import EventRelay.Proofs.Json.Numeral
import EventRelay.Proofs.Json.Record
import EventRelay.Proofs.Text.Decimal
import EventRelay.Proofs.Text.Separator

namespace EventRelay.Mailbox

open Json Decoder Field Text

/-- A position, as it is spelled. A number is written by its digits alone. -/
def WrittenPosition.IsSpelled (node : Node) : WrittenPosition → Prop
  | number position => ∃ digits, node = .number (.numeral ⟨false, digits, none, none⟩) ∧
      Nat.ofDigitChars 10 (digits.map fun b => Char.ofNat b.toNat) 0 = position.toNat
  | text s => Decoder.text node = .ok s

theorem WrittenPosition.isSpelled_of_decoder {node : Node} {written : WrittenPosition}
    (hread : WrittenPosition.decoder node = .ok written) : written.IsSpelled node := by
  rw [WrittenPosition.decoder.eq_def] at hread
  split at hread
  · obtain ⟨s, hs, rfl⟩ := map_eq_ok.1 hread
    exact hs
  · obtain ⟨position, hposition, rfl⟩ := map_eq_ok.1 hread
    exact uint64_eq_ok_iff.1 hposition

/-- What a written position means: a number means itself, and digits their number, also after a plus
sign. -/
inductive WrittenPosition.Means : WrittenPosition → UInt64 → Prop
  | number (position : UInt64) : Means (.number position) position
  | text {s : String} {digits : List Char} {position : UInt64}
      (hdigits : IsDecimal digits position.toNat)
      (hsign : s.toList = digits ∨ s.toList = '+' :: digits) : Means (.text s) position

theorem WrittenPosition.value?_eq_some_iff {written : WrittenPosition} {position : UInt64} :
    written.value? = some position ↔ written.Means position := by
  cases written with
  | number n =>
    rw [value?, Option.some.injEq]
    constructor
    · rintro rfl
      exact .number n
    · rintro ⟨⟩
      rfl
  | text s =>
    simp only [value?, Option.map_eq_some_iff, toOption_eq_some, readNat_eq_ok_iff]
    constructor
    · rintro ⟨n, ⟨hle, digits, hdigits, hsign⟩, rfl⟩
      have hn : n.toUInt64.toNat = n := UInt64.toNat_ofNat_of_lt' (Nat.lt_succ_of_le hle)
      exact .text (by rwa [hn]) hsign
    · rintro (_ | ⟨hdigits, hsign⟩)
      exact ⟨position.toNat, ⟨Nat.le_of_lt_succ position.toNat_lt, _, hdigits, hsign⟩, by simp⟩

/-- A message of the history, as it is spelled. -/
structure MessageReference.IsSpelled (node : Node) (message : MessageReference) : Prop where
  id : node.Gives ["id"] 0 (Decoder.text · = .ok ·) "" message.id
  thread : node.Gives ["threadId"] 1 (Decoder.text · = .ok ·) "" message.thread
  labels : node.Gives ["labelIds"] 2 (Node.Lists (Decoder.text · = .ok ·)) [] message.labels

theorem MessageReference.isSpelled_of_decoder {node : Node} {message : MessageReference}
    (hread : MessageReference.decoder node = .ok message) : message.IsSpelled node where
  id := record_gives hread 0 (·.id)
    ⟨rfl, sets_withDefault fun _ _ => rfl, by simp [keeps_withDefault], by decide⟩
  thread := record_gives hread 1 (·.thread)
    ⟨rfl, sets_withDefault fun _ _ => rfl, by simp [keeps_withDefault], by decide⟩
  labels := by
    have hgives := record_gives hread 2 (·.labels)
      ⟨rfl, sets_withDefault fun _ _ => rfl, by simp [keeps_withDefault], by decide⟩
    exact hgives.imp fun _ => Node.lists_decoder

/-- A record of the history names the messages that were added. -/
def IsRecord (node : Node) (messages : List MessageReference) : Prop :=
  node.Gives ["messagesAdded"] 0
    (Node.Lists fun node message =>
      node.Gives ["message"] 0 (fun node message => message.IsSpelled node) ⟨"", "", []⟩ message)
    [] messages

theorem isRecord_of_decoder {node : Node} {messages : List MessageReference}
    (hread : recordDecoder node = .ok messages) : IsRecord node messages := by
  have hadded (node : Node) (message : MessageReference) (hread : addedDecoder node = .ok message) :
      node.Gives ["message"] 0 (fun node message => message.IsSpelled node) ⟨"", "", []⟩ message := by
    have hgives := record_gives hread 0 id
      ⟨rfl, sets_withDefault fun _ _ => rfl, by simp, by decide⟩
    exact hgives.imp fun _ => MessageReference.isSpelled_of_decoder
  have hgives := record_gives hread 0 id
    ⟨rfl, sets_withDefault fun _ _ => rfl, by simp, by decide⟩
  exact hgives.imp fun _ => Node.lists_of_decoder hadded

/-- A page of the history, as it is spelled. -/
structure Listing.IsSpelled (node : Node) (listing : Listing) : Prop where
  records : node.Gives ["history"] 0 (Node.Lists IsRecord) [] listing.records
  position : node.Gives ["historyId"] 1
    (Node.Optionally fun node written => written.IsSpelled node) none listing.position?
  nextPage : node.Gives ["nextPageToken"] 2 (Node.Optionally (Decoder.text · = .ok ·)) none
    listing.nextPage?

theorem Listing.isSpelled_of_decoder {node : Node} {listing : Listing}
    (hread : Listing.decoder node = .ok listing) : listing.IsSpelled node where
  records := by
    have hgives := record_gives hread 0 (·.records)
      ⟨rfl, sets_withDefault fun _ _ => rfl, by simp [keeps_nullable], by decide⟩
    exact hgives.imp fun _ => Node.lists_of_decoder fun _ _ => isRecord_of_decoder
  position := by
    have hgives := record_gives hread 1 (·.position?)
      ⟨rfl, sets_nullable fun _ _ => rfl, by simp [keeps_withDefault, keeps_nullable], by decide⟩
    exact hgives.imp fun _ =>
      Node.optionally_of_decoder fun _ => WrittenPosition.isSpelled_of_decoder
  nextPage := by
    have hgives := record_gives hread 2 (·.nextPage?)
      ⟨rfl, sets_nullable fun _ _ => rfl, by simp [keeps_withDefault, keeps_nullable], by decide⟩
    exact hgives.imp fun _ => Node.optionally_decoder

/-- A header, as it is spelled. -/
structure IsHeader (node : Node) (header : String × String) : Prop where
  name : node.Gives ["name"] 0 (Decoder.text · = .ok ·) "" header.1
  value : node.Gives ["value"] 1 (Decoder.text · = .ok ·) "" header.2

theorem isHeader_of_decoder {node : Node} {header : String × String}
    (hread : headerDecoder node = .ok header) : IsHeader node header where
  name := record_gives hread 0 (·.1)
    ⟨rfl, sets_needed fun _ _ => rfl, by simp [keeps_needed], by decide⟩
  value := record_gives hread 1 (·.2)
    ⟨rfl, sets_needed fun _ _ => rfl, by simp [keeps_needed], by decide⟩

theorem headers_of_decoder {node : Node} {headers : List (String × String)}
    (hread : payloadDecoder node = .ok headers) :
    node.Gives ["headers"] 0 (Node.Lists IsHeader) [] headers := by
  have hgives := record_gives hread 0 id
    ⟨rfl, sets_withDefault fun _ _ => rfl, by simp, by decide⟩
  exact hgives.imp fun _ => Node.lists_of_decoder fun _ _ => isHeader_of_decoder

/-- What the mailbox tells about a message, as it is spelled. -/
structure MessageDetails.IsSpelled (node : Node) (details : MessageDetails) : Prop where
  id : node.Gives ["id"] 0 (Decoder.text · = .ok ·) "" details.id
  thread : node.Gives ["threadId"] 1 (Decoder.text · = .ok ·) "" details.thread
  labels : node.Gives ["labelIds"] 2 (Node.Lists (Decoder.text · = .ok ·)) [] details.labels
  snippet : node.Gives ["snippet"] 3 (Decoder.text · = .ok ·) "" details.snippet
  headers : node.Gives ["payload"] 4
    (fun node headers => node.Gives ["headers"] 0 (Node.Lists IsHeader) [] headers) []
    details.headers

theorem MessageDetails.isSpelled_of_decoder {node : Node} {details : MessageDetails}
    (hread : MessageDetails.decoder node = .ok details) : details.IsSpelled node where
  id := record_gives hread 0 (·.id)
    ⟨rfl, sets_withDefault fun _ _ => rfl, by simp [keeps_withDefault], by decide⟩
  thread := record_gives hread 1 (·.thread)
    ⟨rfl, sets_withDefault fun _ _ => rfl, by simp [keeps_withDefault], by decide⟩
  labels := by
    have hgives := record_gives hread 2 (·.labels)
      ⟨rfl, sets_withDefault fun _ _ => rfl, by simp [keeps_withDefault], by decide⟩
    exact hgives.imp fun _ => Node.lists_decoder
  snippet := record_gives hread 3 (·.snippet)
    ⟨rfl, sets_withDefault fun _ _ => rfl, by simp [keeps_withDefault], by decide⟩
  headers := by
    have hgives := record_gives hread 4 (·.headers)
      ⟨rfl, sets_withDefault fun _ _ => rfl, by simp [keeps_withDefault], by decide⟩
    exact hgives.imp fun _ => headers_of_decoder

/-- What the headers of a message say under a name. The first header of the name counts, in any case of
its letters; encoded words in it are decoded. -/
inductive HeaderSays (name : String) : List (String × String) → String → Prop
  | absent : HeaderSays name [] ""
  | plain {given written : String} {headers : List (String × String)}
      (hname : given.toLower = name.toLower) (hplain : ¬ ['=', '?'] <:+: written.toList) :
      HeaderSays name ((given, written) :: headers) written
  | encoded {given written : String} {headers : List (String × String)}
      (hname : given.toLower = name.toLower) (hencoded : ['=', '?'] <:+: written.toList) :
      HeaderSays name ((given, written) :: headers) (EncodedWord.decode written)
  | later {given written value : String} {headers : List (String × String)}
      (hname : given.toLower ≠ name.toLower) (hlater : HeaderSays name headers value) :
      HeaderSays name ((given, written) :: headers) value

theorem HeaderSays.unique {name value value' : String} {headers : List (String × String)}
    (hfirst : HeaderSays name headers value) (hsecond : HeaderSays name headers value') :
    value = value' := by
  induction hfirst with
  | absent =>
    cases hsecond
    rfl
  | plain hname hplain =>
    cases hsecond with
    | plain => rfl
    | encoded _ hencoded => exact absurd hencoded hplain
    | later hother => exact absurd hname hother
  | encoded hname hencoded =>
    cases hsecond with
    | plain _ hplain => exact absurd hencoded hplain
    | encoded => rfl
    | later hother => exact absurd hname hother
  | later hname _ ih =>
    cases hsecond with
    | plain hother => exact absurd hother hname
    | encoded hother => exact absurd hother hname
    | later _ hlater => exact ih hlater

theorem headerSays_header (details : MessageDetails) (name : String) :
    HeaderSays name details.headers (details.header name) := by
  rw [MessageDetails.header]
  induction details.headers with
  | nil => exact .absent
  | cons header headers ih =>
    obtain ⟨given, written⟩ := header
    by_cases hname : given.toLower = name.toLower
    · rw [List.find?_cons_of_pos (by simpa using map_asciiLower_eq_iff.2 hname)]
      change HeaderSays name _ (MessageDetails.readableHeader written)
      rw [MessageDetails.readableHeader]
      by_cases hencoded : ['=', '?'] <:+: written.toList
      · rw [if_pos (contains_iff.2 hencoded)]
        exact .encoded hname hencoded
      · rw [if_neg (mt contains_iff.1 hencoded)]
        exact .plain hname hencoded
    · rw [List.find?_cons_of_neg (by simpa using mt map_asciiLower_eq_iff.1 hname)]
      exact .later hname ih

/-- A message has become an entry with what the mailbox tells about it. What the mailbox leaves empty is
taken from the history. -/
structure Completes (message : MessageReference) (details : MessageDetails) (entry : MailMessage) :
    Prop where
  id : entry.id = firstSet "" [details.id, message.id]
  thread : entry.thread = firstSet "" [details.thread, message.thread]
  labels : entry.labels = details.labels
  subject : HeaderSays "Subject" details.headers entry.subject
  sender : HeaderSays "From" details.headers entry.sender
  snippet : entry.snippet = details.snippet

theorem completes_withDetails (message : MessageReference) (details : MessageDetails) :
    Completes message details (message.withDetails details) where
  id := by rw [← getD_nonempty?, firstSet_singleton, MessageReference.withDetails]
  thread := by rw [← getD_nonempty?, firstSet_singleton, MessageReference.withDetails]
  labels := rfl
  subject := headerSays_header details "Subject"
  sender := headerSays_header details "From"
  snippet := rfl

theorem Completes.unique {message : MessageReference} {details : MessageDetails}
    {entry entry' : MailMessage} (hentry : Completes message details entry)
    (hentry' : Completes message details entry') : entry = entry' := by
  have hid := hentry.id.trans hentry'.id.symm
  have hthread := hentry.thread.trans hentry'.thread.symm
  have hlabels := hentry.labels.trans hentry'.labels.symm
  have hsubject := hentry.subject.unique hentry'.subject
  have hsender := hentry.sender.unique hentry'.sender
  have hsnippet := hentry.snippet.trans hentry'.snippet.symm
  cases entry
  cases entry'
  congr

/-- The messages that pages list, page by page, record by record and in the order of each record. One
without an id cannot be asked for and is left out. -/
def listed (listings : List Listing) : List MessageReference :=
  (listings.flatMap (·.records)).flatten.filter (·.id ≠ "")

theorem listed_cons (listing : Listing) (rest : List Listing) :
    listed (listing :: rest) = listing.messages ++ listed rest := by
  have hkeep (message : MessageReference) : decide (message.id ≠ "") = (message.id != "") := by
    rw [Bool.eq_iff_iff, decide_eq_true_eq, bne_iff_ne]
  rw [listed, List.flatMap_cons, List.flatten_append, List.filter_append, listed]
  simp only [Listing.messages, hkeep]

theorem listed_singleton (listing : Listing) : listed [listing] = listing.messages := by
  rw [listed_cons]
  exact List.append_nil _

/-- A page reports a position. -/
def Listing.Reports (listing : Listing) (position : UInt64) : Prop :=
  ∃ written, listing.position? = some written ∧ written.Means position

theorem Listing.reports_iff {listing : Listing} {position : UInt64} :
    listing.Reports position ↔ listing.position?.bind WrittenPosition.value? = some position := by
  simp only [Reports, Option.bind_eq_some_iff, WrittenPosition.value?_eq_some_iff]

/-- The position that the last of the pages that report one reports, or `start` if none does. -/
inductive LastPosition (start : UInt64) : List Listing → UInt64 → Prop
  | start : LastPosition start [] start
  | reported {listings : List Listing} {listing : Listing} {position : UInt64}
      (hreports : listing.Reports position) : LastPosition start (listings ++ [listing]) position
  | silent {listings : List Listing} {listing : Listing} {position : UInt64}
      (hsilent : ∀ reported, ¬ listing.Reports reported)
      (hearlier : LastPosition start listings position) :
      LastPosition start (listings ++ [listing]) position

theorem lastPosition_nil_iff {start position : UInt64} :
    LastPosition start [] position ↔ position = start := by
  refine ⟨fun hlast => ?_, fun heq => heq ▸ .start⟩
  generalize hnil : ([] : List Listing) = listings at hlast
  cases hlast with
  | start => rfl
  | reported | silent => simp at hnil

theorem lastPosition_concat_iff {start position : UInt64} {listings : List Listing}
    {listing : Listing} : LastPosition start (listings ++ [listing]) position ↔
      listing.Reports position ∨
        (∀ reported, ¬ listing.Reports reported) ∧ LastPosition start listings position := by
  constructor
  · intro hlast
    generalize hall : listings ++ [listing] = all at hlast
    cases hlast with
    | start => simp at hall
    | reported hreports =>
      obtain ⟨rfl, ⟨⟩⟩ := List.append_inj' hall rfl
      exact .inl hreports
    | silent hsilent hearlier =>
      obtain ⟨rfl, ⟨⟩⟩ := List.append_inj' hall rfl
      exact .inr ⟨hsilent, hearlier⟩
  · rintro (hreports | ⟨hsilent, hearlier⟩)
    · exact .reported hreports
    · exact .silent hsilent hearlier

theorem LastPosition.unique {start position position' : UInt64} {listings : List Listing}
    (hlast : LastPosition start listings position) (hlast' : LastPosition start listings position') :
    position = position' := by
  induction listings using List.reverseRecOn with
  | nil => rw [lastPosition_nil_iff.1 hlast, lastPosition_nil_iff.1 hlast']
  | append_singleton listings listing ih =>
    obtain hreports | ⟨hsilent, hearlier⟩ := lastPosition_concat_iff.1 hlast
    · obtain hreports' | ⟨hsilent, -⟩ := lastPosition_concat_iff.1 hlast'
      · rw [Listing.reports_iff] at hreports hreports'
        exact Option.some.inj (hreports.symm.trans hreports')
      · exact absurd hreports (hsilent position)
    · obtain hreports' | ⟨-, hearlier'⟩ := lastPosition_concat_iff.1 hlast'
      · exact absurd hreports' (hsilent position')
      · exact ih hearlier hearlier'

/-- Pages go on from the position that the first of them reports. -/
theorem LastPosition.cons {start position : UInt64} {listing : Listing} {rest : List Listing}
    (hlast : LastPosition ((listing.position?.bind WrittenPosition.value?).getD start) rest position) :
    LastPosition start (listing :: rest) position := by
  induction rest using List.reverseRecOn with
  | nil =>
    rw [lastPosition_nil_iff] at hlast
    rw [hlast, ← List.nil_append [listing], lastPosition_concat_iff]
    cases hreported : listing.position?.bind WrittenPosition.value? with
    | none =>
      refine .inr ⟨fun reported hreports => ?_, .start⟩
      cases hreported.symm.trans (Listing.reports_iff.1 hreports)
    | some reported => exact .inl (Listing.reports_iff.2 hreported)
  | append_singleton rest last ih =>
    rw [← List.cons_append, lastPosition_concat_iff]
    exact (lastPosition_concat_iff.1 hlast).imp_right (And.imp_right ih)

end EventRelay.Mailbox
