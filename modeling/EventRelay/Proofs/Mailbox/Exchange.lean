import EventRelay.Mailbox.Client
import EventRelay.Proofs.Http.Call
import EventRelay.Proofs.Mailbox.Listing
import EventRelay.Proofs.Script.Trace
import Mathlib.Data.List.Infix

namespace EventRelay

open Http Mailbox Script

/-- A call with what came back from it. -/
abbrev Http.Exchange := Call × Except String Reply

def Http.Reply.IsSuccess (reply : Reply) : Prop :=
  200 ≤ reply.status ∧ reply.status < 300

instance (reply : Reply) : Decidable reply.IsSuccess :=
  inferInstanceAs (Decidable (_ ∧ _))

theorem Http.Reply.isSuccess_iff {reply : Reply} :
    Status.isSuccess reply.status = true ↔ reply.IsSuccess := by
  simp [Status.isSuccess, IsSuccess]

/-- The replies that are ready for calls for a page, and all that has been exchanged so far. -/
structure MailSession where
  pages : List (Except String Reply)
  exchanges : List Exchange
  deriving Inhabited

/-- What a client of a mailbox meets. Whatever is no call for a page may be answered by anything, and
the answer may depend on all that was exchanged before. -/
structure MailServer where
  clock : List Exchange → Nat
  reply : List Exchange → Call → Except String Reply
  /-- The failure of a call for a page when no reply is ready any more. -/
  closed : String

namespace MailboxClient

def IsPageCall (client : MailboxClient) (call : Call) : Prop :=
  call.url = client.baseUrl ++ "/history"

instance (client : MailboxClient) (call : Call) : Decidable (client.IsPageCall call) :=
  inferInstanceAs (Decidable (_ = _))

/-- The call for a page. The first page has no name. -/
def pageCall (client : MailboxClient) (position : UInt64) (page? : Option String) : Call where
  method := "GET"
  url := client.baseUrl ++ "/history"
  query := [("startHistoryId", toString position.toNat), ("historyTypes", "messageAdded")] ++
    page?.toList.map fun page => ("pageToken", page)
  token := client.token
  body? := none

/-- The call for what the mailbox tells about a message. -/
def detailsCall (client : MailboxClient) (message : MessageReference) : Call where
  method := "GET"
  url := client.baseUrl ++ "/messages/" ++ message.id
  query :=
    [("format", "metadata"), ("metadataHeaders", "From"), ("metadataHeaders", "Subject")]
  token := client.token
  body? := none

/-- What the reply to a call for a page tells. -/
inductive PageTells (client : MailboxClient) (position : UInt64) :
    Except String Reply → Except HistoryError Listing → Prop
  | unreachable (reason : String) :
      PageTells client position (.error reason) (.error (.request "history" reason))
  | expired {reply : Reply} (hstatus : reply.status = 404) :
      PageTells client position (.ok reply) (.error (.expired position))
  | unauthorized {reply : Reply} (hstatus : reply.status = 401 ∨ reply.status = 403) :
      PageTells client position (.ok reply) (.error (.unauthorized client.account))
  | refused {reply : Reply} (hstatus : reply.status ∉ [401, 403, 404]) (hfailed : ¬ reply.IsSuccess) :
      PageTells client position (.ok reply) (.error (.status "history" reply.status reply.text))
  | unreadable {reply : Reply} {error : Json.Fault} (hsuccess : reply.IsSuccess)
      (hread : Listing.decoder.run reply.body = .error error) :
      PageTells client position (.ok reply)
        (.error (.invalidResponse "history" "error decoding response body"))
  | listed {reply : Reply} {listing : Listing} (hsuccess : reply.IsSuccess)
      (hread : Listing.decoder.run reply.body = .ok listing)
      (hspelled : listing.IsSpelled (Json.Document.read reply.body).root) :
      PageTells client position (.ok reply) (.ok listing)

/-- The details of a message that a reply tells. -/
def TellsDetails (reply : Except String Reply) (details : MessageDetails) : Prop :=
  ∃ told, reply = .ok told ∧ told.IsSuccess ∧ MessageDetails.decoder.run told.body = .ok details ∧
    details.IsSpelled (Json.Document.read told.body).root

/-- What becomes of a message once its details were asked for. -/
structure Entered (message : MessageReference) (reply : Except String Reply) (entry : MailMessage) :
    Prop where
  told : ∀ details, TellsDetails reply details → Completes message details entry
  untold : (∀ details, ¬ TellsDetails reply details) →
    entry = ⟨message.id, message.thread, message.labels, "", "", ""⟩

variable {client : MailboxClient} {position : UInt64}

theorem PageTells.unique {reply : Except String Reply} {told told' : Except HistoryError Listing}
    (htells : PageTells client position reply told) (htells' : PageTells client position reply told') :
    told = told' := by
  cases htells <;> cases htells' <;> grind [Reply.IsSuccess]

theorem pageTells_of_run {reply : Reply} {listing : Listing} (hsuccess : reply.IsSuccess)
    (hread : Listing.decoder.run reply.body = .ok listing) :
    PageTells client position (.ok reply) (.ok listing) :=
  .listed hsuccess hread (Listing.isSpelled_of_decoder (Json.Decoder.eq_ok_of_run hread))

theorem tellsDetails_of_run {reply : Reply} {details : MessageDetails} (hsuccess : reply.IsSuccess)
    (hread : MessageDetails.decoder.run reply.body = .ok details) :
    TellsDetails (.ok reply) details :=
  ⟨reply, rfl, hsuccess, hread,
    MessageDetails.isSpelled_of_decoder (Json.Decoder.eq_ok_of_run hread)⟩

theorem not_isPageCall_detailsCall (message : MessageReference) :
    ¬ client.IsPageCall (client.detailsCall message) := by
  intro hpage
  have hurl : (client.detailsCall message).url.toList = (client.baseUrl ++ "/history").toList :=
    congrArg String.toList hpage
  simp [detailsCall] at hurl

theorem isPageCall_pageCall (client : MailboxClient) (position : UInt64) (page? : Option String) :
    client.IsPageCall (client.pageCall position page?) :=
  rfl

/-- Each message has been asked for once, and has become one entry. -/
inductive Enriched (client : MailboxClient) :
    List MessageReference → List Exchange → List MailMessage → Prop
  | nil : Enriched client [] [] []
  | cons {message : MessageReference} {reply : Except String Reply} {entry : MailMessage}
      {messages : List MessageReference} {exchanges : List Exchange} {entries : List MailMessage}
      (hentered : Entered message reply entry) (hrest : Enriched client messages exchanges entries) :
      Enriched client (message :: messages) ((client.detailsCall message, reply) :: exchanges)
        (entry :: entries)

theorem Enriched.append {messages messages' : List MessageReference}
    {exchanges exchanges' : List Exchange} {entries entries' : List MailMessage}
    (hfirst : Enriched client messages exchanges entries)
    (hsecond : Enriched client messages' exchanges' entries') :
    Enriched client (messages ++ messages') (exchanges ++ exchanges') (entries ++ entries') := by
  induction hfirst with
  | nil => exact hsecond
  | cons hentered _ ih => exact .cons hentered ih

theorem Enriched.not_isPageCall {messages : List MessageReference} {exchanges : List Exchange}
    {entries : List MailMessage} (henriched : Enriched client messages exchanges entries) :
    ∀ exchange ∈ exchanges, ¬ client.IsPageCall exchange.1 := by
  induction henriched with
  | nil => simp
  | cons _ _ ih => exact List.forall_mem_cons.2 ⟨not_isPageCall_detailsCall _, ih⟩

/-- Entries are known if it is known what each message becomes. -/
theorem Enriched.entries_eq {messages : List MessageReference} {exchanges : List Exchange}
    {entries : List MailMessage} (henriched : Enriched client messages exchanges entries)
    (enter : MessageReference → MailMessage)
    (henter : ∀ message ∈ messages, ∀ reply, (client.detailsCall message, reply) ∈ exchanges →
      ∀ entry, Entered message reply entry → entry = enter message) :
    entries = messages.map enter := by
  induction henriched with
  | nil => rfl
  | cons hentered _ ih =>
    rw [List.map_cons, ← ih fun message hmem reply hreply => henter message (.tail _ hmem) reply
      (.tail _ hreply), henter _ (.head _) _ (.head _) _ hentered]

end MailboxClient

namespace MailServer

open MailboxClient

variable {server : MailServer} {client : MailboxClient} {session : MailSession} {position : UInt64}

/-- What comes back from the next call for a page. -/
def nextReply (server : MailServer) (pages : List (Except String Reply)) : Except String Reply :=
  pages.headD (.error server.closed)

/-- What comes back from a call. -/
def replyTo (server : MailServer) (client : MailboxClient) (session : MailSession) (call : Call) :
    Except String Reply :=
  if client.IsPageCall call then server.nextReply session.pages
  else server.reply session.exchanges call

/-- The session after a call. -/
def afterCall (server : MailServer) (client : MailboxClient) (session : MailSession) (call : Call) :
    MailSession where
  pages := if client.IsPageCall call then session.pages.tail else session.pages
  exchanges := session.exchanges ++ [(call, server.replyTo client session call)]

def answer (server : MailServer) (client : MailboxClient) :
    (effect : ClientEffect) → StateM MailSession effect.Answer
  | .now => fun session => (server.clock session.exchanges, session)
  | .send call => fun session =>
    (server.replyTo client session call, server.afterCall client session call)

/-- Whatever has been answered to calls that are not for a page is what the server replies to them. -/
def Genuine (server : MailServer) (client : MailboxClient) (exchanges : List Exchange) : Prop :=
  ∀ before call reply, before ++ [(call, reply)] <+: exchanges → ¬ client.IsPageCall call →
    reply = server.reply before call

theorem Genuine.of_mem {exchanges : List Exchange} (hgenuine : server.Genuine client exchanges)
    {exchange : Exchange} (hmem : exchange ∈ exchanges) (hother : ¬ client.IsPageCall exchange.1) :
    ∃ before, exchange.2 = server.reply before exchange.1 := by
  obtain ⟨before, after, rfl⟩ := List.append_of_mem hmem
  exact ⟨before, hgenuine before _ _ ⟨after, by simp⟩ hother⟩

/-- What work comes to in a session, and the session after it. -/
def play {α : Type} (server : MailServer) (client : MailboxClient) (work : ClientM α)
    (session : MailSession) : α × MailSession :=
  work.run (server.answer client) session

@[simp] theorem play_done {α : Type} (value : α) :
    server.play client (.done value) session = (value, session) :=
  rfl

@[simp] theorem play_bind {α β : Type} (work : ClientM α) (next : α → ClientM β) :
    server.play client (work.bind next) session =
      server.play client (next (server.play client work session).1)
        (server.play client work session).2 := by
  induction work generalizing session with
  | done value => rfl
  | ask question inner ih => exact ih _

theorem Genuine.afterCall (hgenuine : server.Genuine client session.exchanges) (call : Call) :
    server.Genuine client (server.afterCall client session call).exchanges := by
  intro before other reply hprefix hother
  obtain hlast | hearlier := List.prefix_concat_iff.1 hprefix
  · obtain ⟨rfl, hexchange⟩ := List.append_inj' hlast rfl
    cases hexchange
    exact if_neg hother
  · exact hgenuine before other reply hearlier hother

theorem Genuine.play {α : Type} (hgenuine : server.Genuine client session.exchanges)
    (work : ClientM α) :
    server.Genuine client (server.play client work session).2.exchanges := by
  induction work generalizing session with
  | done value => exact hgenuine
  | ask question inner ih =>
    cases question with
    | now => exact ih _ hgenuine
    | send call => exact ih _ (hgenuine.afterCall call)

theorem play_send {call : Call} (htoken : Call.IsHeaderText call.token) :
    server.play client call.send session =
      (server.replyTo client session call, server.afterCall client session call) := by
  rw [Call.send_of_isHeaderText htoken]
  rfl

theorem play_clientSend (htoken : Call.IsHeaderText client.token) (endpoint : String)
    (query : List (String × String)) :
    let call : Call := ⟨"GET", client.baseUrl ++ "/" ++ endpoint, query, client.token, none⟩
    server.play client (client.send endpoint query) session =
      ((server.replyTo client session call).mapError (.request endpoint),
        server.afterCall client session call) := by
  intro call
  rw [MailboxClient.send, bind_eq_bind, play_bind, play_send htoken]
  cases server.replyTo client session call <;> rfl

theorem decode_eq_ok_iff {α : Type} {endpoint : String} {decoder : Json.Decoder α} {reply : Reply}
    {value : α} : client.decode endpoint decoder reply = .ok value ↔
      reply.IsSuccess ∧ decoder.run reply.body = .ok value := by
  rw [← Reply.isSuccess_iff]
  have hsuccess (hstatus : reply.status = 401 ∨ reply.status = 403) :
      Status.isSuccess reply.status = false := by
    obtain hstatus | hstatus := hstatus <;> rw [hstatus] <;> rfl
  rw [decode]
  split
  · rename_i hstatus
    simp [hsuccess hstatus]
  · cases Status.isSuccess reply.status with
    | false => simp
    | true => cases decoder.run reply.body <;> simp

theorem detailsCall_eq (client : MailboxClient) (message : MessageReference) :
    client.detailsCall message = ⟨"GET", client.baseUrl ++ "/" ++ ("messages/" ++ message.id),
      detailsQuery, client.token, none⟩ := by
  have hurl : "/messages/" = "/" ++ "messages/" := rfl
  rw [detailsCall, hurl]
  simp only [String.append_assoc]
  rfl

theorem pageCall_eq (client : MailboxClient) (position : UInt64) (page? : Option String) :
    client.pageCall position page? = ⟨"GET", client.baseUrl ++ "/" ++ "history",
      historyQuery position page?, client.token, none⟩ := by
  rw [pageCall, String.append_assoc, Nat.toString_eq_ofList_toDigits]
  rfl

theorem play_enrich (server : MailServer) (session : MailSession)
    (htoken : Call.IsHeaderText client.token) (message : MessageReference) :
    ∃ entry, Entered message (server.replyTo client session (client.detailsCall message)) entry ∧
      server.play client (client.enrich message) session =
        (entry, server.afterCall client session (client.detailsCall message)) := by
  rw [enrich, fetch, bind_eq_bind, play_bind, bind_eq_bind, play_bind, play_clientSend htoken,
    ← detailsCall_eq]
  cases server.replyTo client session (client.detailsCall message) with
  | error reason =>
    refine ⟨message.bare, ⟨?_, fun _ => rfl⟩, rfl⟩
    rintro details ⟨told, ⟨⟩, -⟩
  | ok reply =>
    simp only [Except.mapError, pure_eq_done, play_done]
    cases hread : client.decode ("messages/" ++ message.id) MessageDetails.decoder reply with
    | error error =>
      refine ⟨message.bare, ⟨?_, fun _ => rfl⟩, rfl⟩
      rintro details ⟨told, ⟨⟩, hsuccess, htold, -⟩
      rw [decode_eq_ok_iff.2 ⟨hsuccess, htold⟩] at hread
      cases hread
    | ok details =>
      have htold := decode_eq_ok_iff.1 hread
      refine ⟨message.withDetails details, ⟨?_, ?_⟩, rfl⟩
      · rintro other ⟨told, ⟨⟩, -, hother, -⟩
        rw [htold.2] at hother
        cases hother
        exact completes_withDetails message details
      · intro huntold
        exact absurd (tellsDetails_of_run htold.1 htold.2) (huntold details)

theorem play_enrichAll (server : MailServer) (session : MailSession)
    (htoken : Call.IsHeaderText client.token) (messages : List MessageReference) :
    ∃ exchanges entries, Enriched client messages exchanges entries ∧
        server.play client (client.enrichAll messages) session =
          (entries, ⟨session.pages, session.exchanges ++ exchanges⟩) := by
  induction messages generalizing session with
  | nil => exact ⟨[], [], .nil, by simp [enrichAll]⟩
  | cons message rest ih =>
    obtain ⟨entry, hentered, hplay⟩ := play_enrich server session htoken message
    obtain ⟨exchanges, entries, hrest, hlater⟩ :=
      ih (server.afterCall client session (client.detailsCall message))
    refine ⟨_, _, .cons hentered hrest, ?_⟩
    simp only [enrichAll, bind_eq_bind, play_bind, hplay, hlater, pure_eq_done, play_done]
    simp [afterCall, if_neg (not_isPageCall_detailsCall message)]

theorem pageTells_decode {reply : Reply} (hknown : reply.status ≠ 404) :
    PageTells client position (.ok reply) (client.decode "history" Listing.decoder reply) := by
  rw [decode]
  split
  · rename_i hstatus
    exact .unauthorized hstatus
  · rename_i hstatus
    by_cases hsuccess : reply.IsSuccess
    · rw [Reply.isSuccess_iff.2 hsuccess]
      cases hread : Listing.decoder.run reply.body with
      | error error => exact .unreadable hsuccess hread
      | ok listing => exact pageTells_of_run hsuccess hread
    · rw [Bool.eq_false_iff.2 (mt Reply.isSuccess_iff.1 hsuccess)]
      exact .refused (by simp_all) hsuccess

end MailServer

end EventRelay
