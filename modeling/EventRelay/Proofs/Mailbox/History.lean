import EventRelay.Proofs.Choice
import EventRelay.Proofs.Mailbox.Exchange
import EventRelay.Proofs.Poller.Cursor
import Mathlib.Data.List.Basic

namespace EventRelay

open Http Mailbox Script

namespace MailboxClient

/-- How a history is read, beginning with the page that `page?` names: the calls for pages with their
replies, the listings that the replies tell, and the failure that puts an end to it, if there is one.
Nothing more is asked after a failure, or after a page that names no other. -/
inductive Reads (client : MailboxClient) (position : UInt64) (server : MailServer) : Option String →
    List (Except String Reply) → List Exchange → List Listing → Option HistoryError → Prop
  | failed {page? : Option String} {pages : List (Except String Reply)} {error : HistoryError}
      (htells : PageTells client position (server.nextReply pages) (.error error)) :
      Reads client position server page? pages
        [(client.pageCall position page?, server.nextReply pages)] [] (some error)
  | last {page? : Option String} {pages : List (Except String Reply)} {listing : Listing}
      (htells : PageTells client position (server.nextReply pages) (.ok listing))
      (hlast : ∀ token, listing.nextPage? = some token → token = "") :
      Reads client position server page? pages
        [(client.pageCall position page?, server.nextReply pages)] [listing] none
  | next {page? : Option String} {pages : List (Except String Reply)} {listing : Listing}
      {token : String} {exchanges : List Exchange} {listings : List Listing}
      {failure? : Option HistoryError}
      (htells : PageTells client position (server.nextReply pages) (.ok listing))
      (hnext : listing.nextPage? = some token) (hnamed : token ≠ "")
      (hrest : Reads client position server (some token) pages.tail exchanges listings failure?) :
      Reads client position server page? pages
        ((client.pageCall position page?, server.nextReply pages) :: exchanges)
        (listing :: listings) failure?

/-- There is one way only to read pages. -/
theorem Reads.unique {client : MailboxClient} {position : UInt64} {server : MailServer}
    {page? : Option String} {pages : List (Except String Reply)} {asked asked' : List Exchange}
    {listings listings' : List Listing} {failure? failure?' : Option HistoryError}
    (hreads : Reads client position server page? pages asked listings failure?)
    (hreads' : Reads client position server page? pages asked' listings' failure?') :
    asked = asked' ∧ listings = listings' ∧ failure? = failure?' := by
  induction hreads generalizing asked' listings' failure?' with
  | failed htells =>
    cases hreads' with
    | failed htells' =>
      cases htells.unique htells'
      exact ⟨rfl, rfl, rfl⟩
    | last htells' | next htells' => cases htells.unique htells'
  | last htells hlast =>
    cases hreads' with
    | failed htells' => cases htells.unique htells'
    | last htells' =>
      cases htells.unique htells'
      exact ⟨rfl, rfl, rfl⟩
    | next htells' hnext hnamed =>
      cases htells.unique htells'
      exact absurd (hlast _ hnext) hnamed
  | next htells hnext hnamed _ ih =>
    cases hreads' with
    | failed htells' => cases htells.unique htells'
    | last htells' hlast =>
      cases htells.unique htells'
      exact absurd (hlast _ hnext) hnamed
    | next htells' hnext' _ hrest' =>
      cases htells.unique htells'
      cases hnext.symm.trans hnext'
      obtain ⟨rfl, rfl, rfl⟩ := ih hrest'
      exact ⟨rfl, rfl, rfl⟩

/-- What has been fetched, beginning with the page that `page?` names: the exchanges, what the pages
list, the entries that their messages have become, and the failure that put an end to it, if there was
one. -/
structure Fetched (client : MailboxClient) (position : UInt64) (server : MailServer)
    (page? : Option String) (pages : List (Except String Reply)) (exchanges : List Exchange)
    (listings : List Listing) (entries : List MailMessage) (failure? : Option HistoryError) :
    Prop where
  read : Reads client position server page? pages
    (exchanges.filter fun exchange => client.IsPageCall exchange.1) listings failure?
  enriched : Enriched client (listed listings)
    (exchanges.filter fun exchange => ¬ client.IsPageCall exchange.1) entries

variable {client : MailboxClient} {position : UInt64} {server : MailServer}

section Fetched

variable {page? : Option String} {pages : List (Except String Reply)} {messages : List MessageReference}
  {exchanges later : List Exchange} {entries : List MailMessage} {reply : Except String Reply}
  {listing : Listing}

theorem filter_isPageCall (henriched : Enriched client messages exchanges entries) :
    ((client.pageCall position page?, reply) :: (exchanges ++ later)).filter
        (fun exchange => client.IsPageCall exchange.1) =
      (client.pageCall position page?, reply) ::
        later.filter fun exchange => client.IsPageCall exchange.1 := by
  have hnone : exchanges.filter (fun exchange => client.IsPageCall exchange.1) = [] := by
    simpa [List.filter_eq_nil_iff] using henriched.not_isPageCall
  rw [List.filter_cons_of_pos (by simp [isPageCall_pageCall]), List.filter_append, hnone,
    List.nil_append]

theorem filter_not_isPageCall (henriched : Enriched client messages exchanges entries) :
    ((client.pageCall position page?, reply) :: (exchanges ++ later)).filter
        (fun exchange => ¬ client.IsPageCall exchange.1) =
      exchanges ++ later.filter fun exchange => ¬ client.IsPageCall exchange.1 := by
  have hall : exchanges.filter (fun exchange => ¬ client.IsPageCall exchange.1) = exchanges := by
    simpa [List.filter_eq_self] using henriched.not_isPageCall
  rw [List.filter_cons_of_neg (by simp [isPageCall_pageCall]), List.filter_append, hall]

theorem Fetched.failed {error : HistoryError}
    (htells : PageTells client position (server.nextReply pages) (.error error)) :
    Fetched client position server page? pages
      [(client.pageCall position page?, server.nextReply pages)] [] [] (some error) := by
  have hpage := isPageCall_pageCall client position page?
  refine ⟨?_, ?_⟩
  · rw [List.filter_cons_of_pos (by simpa using hpage)]
    exact .failed htells
  · rw [List.filter_cons_of_neg (by simpa using hpage)]
    exact .nil

theorem Fetched.last (htells : PageTells client position (server.nextReply pages) (.ok listing))
    (henriched : Enriched client listing.messages exchanges entries)
    (hlast : ∀ token, listing.nextPage? = some token → token = "") :
    Fetched client position server page? pages
      ((client.pageCall position page?, server.nextReply pages) :: exchanges) [listing] entries
      none := by
  rw [← List.append_nil exchanges]
  constructor
  · rw [filter_isPageCall henriched]
    exact .last htells hlast
  · rw [filter_not_isPageCall henriched, listed_singleton]
    simpa using henriched

theorem Fetched.next {token : String} {listings : List Listing} {entries' : List MailMessage}
    {failure? : Option HistoryError}
    (htells : PageTells client position (server.nextReply pages) (.ok listing))
    (henriched : Enriched client listing.messages exchanges entries)
    (hnext : listing.nextPage? = some token) (hnamed : token ≠ "")
    (hrest : Fetched client position server (some token) pages.tail later listings entries'
      failure?) :
    Fetched client position server page? pages
      ((client.pageCall position page?, server.nextReply pages) :: (exchanges ++ later))
      (listing :: listings) (entries ++ entries') failure? where
  read := by
    rw [filter_isPageCall henriched]
    exact .next htells hnext hnamed hrest.read
  enriched := by
    rw [filter_not_isPageCall henriched, listed_cons]
    exact henriched.append hrest.enriched

end Fetched

end MailboxClient

namespace MailServer

open MailboxClient

variable {server : MailServer} {client : MailboxClient} {session : MailSession} {position : UInt64}

/-- The session in which a page has been asked for. -/
def afterPage (server : MailServer) (client : MailboxClient) (position : UInt64)
    (page? : Option String) (session : MailSession) : MailSession where
  pages := session.pages.tail
  exchanges := session.exchanges ++
    [(client.pageCall position page?, server.nextReply session.pages)]

theorem play_readPage (server : MailServer) (session : MailSession) (position : UInt64)
    (htoken : Call.IsHeaderText client.token) (reading : Reading) :
    ∃ told, PageTells client position (server.nextReply session.pages) told ∧
      server.play client (client.readPage position reading) session =
        let asked := server.afterPage client position reading.page? session
        match told with
        | .error error => (.inr (.error error), asked)
        | .ok listing =>
          let entered := server.play client (client.enrichAll listing.messages) asked
          let read := extend reading.read listing entered.1
          (match listing.nextPage?.bind nonempty? with
            | some page => .inl ⟨read, some page⟩
            | none => .inr (.ok read), entered.2) := by
  have hpage := isPageCall_pageCall client position reading.page?
  rw [readPage, bind_eq_bind, play_bind, play_clientSend htoken, ← pageCall_eq]
  simp only [afterCall, afterPage, replyTo, if_pos hpage]
  cases server.nextReply session.pages with
  | error reason => exact ⟨_, .unreachable reason, rfl⟩
  | ok reply =>
    simp only [Except.mapError]
    by_cases hexpired : reply.status = 404
    · exact ⟨_, .expired hexpired, by rw [if_pos hexpired]; rfl⟩
    · refine ⟨_, pageTells_decode hexpired, ?_⟩
      rw [if_neg hexpired]
      cases client.decode "history" Listing.decoder reply with
      | error error => rfl
      | ok listing =>
        simp only [bind_eq_bind, play_bind]
        cases listing.nextPage?.bind nonempty? <;> rfl

/-- Reads on from where a reading stands, page by page. -/
def readOn (server : MailServer) (client : MailboxClient) (position : UInt64) (reading : Reading)
    (session : MailSession) : Except HistoryError HistoryPage × MailSession :=
  have : Nonempty (Except HistoryError HistoryPage) := ⟨.ok reading.read⟩
  repeatM (fun reading => (client.readPage position reading).run (server.answer client)) reading
    session

theorem readOn_eq (server : MailServer) (client : MailboxClient) (position : UInt64) (reading : Reading)
    (session : MailSession) : server.readOn client position reading session =
      let read := server.play client (client.readPage position reading) session
      match read.1 with
      | .inl reading => server.readOn client position reading read.2
      | .inr result => (result, read.2) := by
  have : Nonempty (Except HistoryError HistoryPage) := ⟨.ok reading.read⟩
  rw [readOn, repeatM_eq_of_monadTail]
  have hread : ((client.readPage position reading).run (server.answer client) : StateM _ _) session =
      server.play client (client.readPage position reading) session := rfl
  simp only [repeatM.body, Bind.bind, StateT.bind, hread]
  generalize server.play client (client.readPage position reading) session = read
  obtain ⟨reading | result, after⟩ := read
  · rfl
  · rfl

/-- What reading on after `read` comes to: to the failure that put an end to it, or else to the entries
of all pages and the last position. -/
def ComesTo (read : HistoryPage) (listings : List Listing) (entries : List MailMessage) :
    Option HistoryError → Except HistoryError HistoryPage → Prop
  | some error, result => result = .error error
  | none, result => ∃ position, LastPosition read.position listings position ∧
    result = .ok ⟨read.entries ++ entries, position⟩

/-- Reading on comes to all that the pages list, or to the failure of one of them. -/
def ReadsAll (server : MailServer) (client : MailboxClient) (position : UInt64)
    (pages : List (Except String Reply)) (reading : Reading) (before : List Exchange) : Prop :=
  ∃ later rest listings entries failure?,
    Fetched client position server reading.page? pages later listings entries failure? ∧
      (server.Genuine client before → server.Genuine client (before ++ later)) ∧
      ∃ result, ComesTo reading.read listings entries failure? result ∧
        server.readOn client position reading ⟨pages, before⟩ = (result, ⟨rest, before ++ later⟩)

theorem ComesTo.extend {read : HistoryPage} {listing : Listing} {listings : List Listing}
    {entries entries' : List MailMessage} {failure? : Option HistoryError}
    {result : Except HistoryError HistoryPage}
    (hcomes : ComesTo (MailboxClient.extend read listing entries) listings entries' failure? result) :
    ComesTo read (listing :: listings) (entries ++ entries') failure? result := by
  cases failure? with
  | some error => exact hcomes
  | none =>
    obtain ⟨position, hlast, rfl⟩ := hcomes
    exact ⟨position, hlast.cons, by simp [MailboxClient.extend]⟩

theorem readsAll_of_tail (htoken : Call.IsHeaderText client.token)
    {pages : List (Except String Reply)}
    (htail : pages ≠ [] → ∀ reading before,
      server.ReadsAll client position pages.tail reading before)
    (reading : Reading) (before : List Exchange) :
    server.ReadsAll client position pages reading before := by
  obtain ⟨told, htells, hread⟩ := play_readPage server ⟨pages, before⟩ position htoken reading
  have hstep := readOn_eq server client position reading ⟨pages, before⟩
  have hgenuine (hbefore : server.Genuine client before) :
      server.Genuine client
        (server.play client (client.readPage position reading) ⟨pages, before⟩).2.exchanges :=
    Genuine.play hbefore _
  rw [hread] at hstep hgenuine
  cases told with
  | error error => exact ⟨_, _, [], [], some error, .failed htells, hgenuine, _, rfl, hstep⟩
  | ok listing =>
    -- Only a reply that was ready tells a page, so fewer are ready for the next one.
    have hpages : pages ≠ [] := by
      rintro rfl
      cases htells
    obtain ⟨exchanges, entries, henriched, hentered⟩ :=
      play_enrichAll server (server.afterPage client position reading.page? ⟨pages, before⟩) htoken
        listing.messages
    simp only [hentered] at hstep hgenuine
    simp only [afterPage, List.append_assoc, List.singleton_append] at hstep hgenuine
    cases hpage : listing.nextPage?.bind nonempty? with
    | none =>
      simp only [hpage] at hstep
      have hlast := bind_nonempty?_eq_none_iff.1 hpage
      exact ⟨_, pages.tail, [listing], entries, none, .last htells henriched hlast, hgenuine, _,
        ⟨_, LastPosition.start.cons, rfl⟩, hstep⟩
    | some token =>
      simp only [hpage] at hstep
      obtain ⟨hnext, hnamed⟩ := bind_nonempty?_eq_some_iff.1 hpage
      obtain ⟨later, rest, listings, entries', failure?, hfetched, hlater, result, hresult, hrest⟩ :=
        htail hpages ⟨extend reading.read listing entries, some token⟩ _
      rw [hrest] at hstep
      refine ⟨_, rest, _, _, failure?, .next htells henriched hnext hnamed hfetched, ?_, result,
        hresult.extend, by simpa using hstep⟩
      intro hbefore
      simpa using hlater (hgenuine hbefore)

theorem readsAll (server : MailServer) (position : UInt64)
    (htoken : Call.IsHeaderText client.token) (pages : List (Except String Reply)) (reading : Reading)
    (before : List Exchange) : server.ReadsAll client position pages reading before := by
  induction pages generalizing reading before with
  | nil => exact readsAll_of_tail htoken (absurd rfl) reading before
  | cons reply rest ih => exact readsAll_of_tail htoken (fun _ => ih) reading before

/-- The history since a position, fetched from a server that has the given replies ready. -/
def fetch (server : MailServer) (client : MailboxClient) (position : UInt64)
    (pages : List (Except String Reply)) : Except HistoryError HistoryPage × MailSession :=
  client.historySince (server.answer client) position ⟨pages, []⟩

theorem fetch_eq (server : MailServer) (client : MailboxClient) (position : UInt64)
    (pages : List (Except String Reply)) :
    server.fetch client position pages =
      server.readOn client position Reading.start ⟨pages, []⟩ :=
  rfl

theorem fetch_fetched (server : MailServer) (client : MailboxClient) (position : UInt64)
    (htoken : Call.IsHeaderText client.token) (pages : List (Except String Reply)) :
    ∃ listings entries failure?,
      Fetched client position server none pages (server.fetch client position pages).2.exchanges
        listings entries failure? ∧
      server.Genuine client (server.fetch client position pages).2.exchanges ∧
      ComesTo ⟨[], 0⟩ listings entries failure? (server.fetch client position pages).1 := by
  obtain ⟨later, rest, listings, entries, failure?, hfetched, hgenuine, result, hresult, hread⟩ :=
    readsAll server position htoken pages Reading.start []
  rw [fetch_eq, hread]
  refine ⟨listings, entries, failure?, hfetched, hgenuine ?_, hresult⟩
  intro before call reply hprefix
  simp at hprefix

/-- With a token that cannot stand in a header nothing is asked. -/
theorem fetch_of_unsendable (server : MailServer) (position : UInt64)
    (htoken : ¬ Call.IsHeaderText client.token) (pages : List (Except String Reply)) :
    server.fetch client position pages =
      (.error (.request "history" "builder error"), ⟨pages, []⟩) := by
  rw [fetch_eq, readOn_eq, readPage, MailboxClient.send, Call.send_of_not_isHeaderText htoken]
  rfl

end MailServer

theorem HistoryError.exists_of_isExpired {error : HistoryError} (hexpired : error.isExpired = true) :
    ∃ position, error = .expired position := by
  cases error with
  | expired position => exact ⟨position, rfl⟩
  | unauthorized | request | status | invalidResponse | missingPosition => cases hexpired

namespace Poller

variable {poller after : Poller} {position : UInt64} {answer : Except HistoryError HistoryPage}
  {trace : List (Sigma Effect.Answer)} {outcome : TickOutcome} {saved saved' : Option UInt64}

/-- What a tick does once it knows what its question for the history comes to. -/
structure Heeds (poller : Poller) (position : UInt64) (answer : Except HistoryError HistoryPage)
    (trace : List (Sigma Effect.Answer)) (after : Poller) (saved saved' : Option UInt64) :
    Prop where
  nothing : ∀ error, answer = .error error → ∀ exchange ∈ trace, ¬ exchange.1.IsPipeline
  unmoved : ∀ error, answer = .error error → (∀ expired, error ≠ .expired expired) →
    trace = [] ∧ after = poller ∧ saved' = saved
  /-- A position that expired is given up for the mailbox's current one. -/
  jumped : ∀ expired, answer = .error (.expired expired) →
    ∃ next?, Jump poller.account trace next? ∧ saved' = next?.or saved
  passed : ∀ page, answer = .ok page → ∃ passed saving,
    trace = passed ++ [⟨.saveCursor poller.account (max page.position position), saving⟩] ∧
      (poller.processAll page.entries).Returns passed ()

theorem tick_heeds (hstate : poller.state = .tracking position)
    (hreturns : poller.tick.Returns (⟨.historySince poller.account position, answer⟩ :: trace)
      (outcome, after))
    (hcursor : CursorRun poller.account saved
      (⟨.historySince poller.account position, answer⟩ :: trace) saved') :
    poller.Heeds position answer trace after saved saved' := by
  obtain ⟨hturn, hafter⟩ := tick_returns hreturns
  obtain ⟨middle, hfetch, hrun⟩ := cursorRun_cons_iff.1 hcursor
  obtain rfl := hfetch.eq_of_elsewhere id
  generalize after.state = state at hturn hafter
  generalize hfull : (⟨.historySince poller.account position, answer⟩ :: trace :
    List (Sigma Effect.Answer)) = full at hturn
  cases hturn with
  | established hother | unestablished hother | reset hother | stillResetting hother =>
    rw [hstate] at hother
    cases hother
  | unfetched hsame hkept =>
    cases hstate.symm.trans hsame
    cases hfull
    refine ⟨fun _ _ => nofun, fun _ _ _ => ⟨rfl, ?_, cursorRun_nil_iff.1 hrun⟩, ?_, nofun⟩
    · rw [hafter, ← hstate]
    · rintro expired ⟨⟩
      cases hkept
  | expiredReset hsame hexpired hjump | expired hsame hexpired hjump =>
    cases hstate.symm.trans hsame
    cases hfull
    refine ⟨fun _ _ _ => hjump.not_isPipeline, ?_, fun _ _ => ⟨_, hjump, hjump.saved_eq hrun⟩,
      nofun⟩
    rintro _ ⟨⟩ hother
    obtain ⟨given, rfl⟩ := HistoryError.exists_of_isExpired hexpired
    exact absurd rfl (hother given)
  | unsaved hsame hpassed | processed hsame hpassed =>
    cases hstate.symm.trans hsame
    cases hfull
    refine ⟨nofun, nofun, nofun, ?_⟩
    rintro _ ⟨⟩
    exact ⟨_, _, rfl, hpassed⟩

end Poller

namespace MailServer

open MailboxClient

/-- A fetch gives all that the pages list or nothing at all, and a poller takes it up as such. -/
structure FetchesWhole (server : MailServer) (client : MailboxClient) (position : UInt64)
    (pages : List (Except String Reply)) : Prop where
  fetched : Call.IsHeaderText client.token → ∃ listings entries failure?,
    Fetched client position server none pages (server.fetch client position pages).2.exchanges
      listings entries failure? ∧
    server.Genuine client (server.fetch client position pages).2.exchanges ∧
    ComesTo ⟨[], 0⟩ listings entries failure? (server.fetch client position pages).1
  unsent : ¬ Call.IsHeaderText client.token → server.fetch client position pages =
    (.error (.request "history" "builder error"), ⟨pages, []⟩)
  heeded : ∀ {poller after : Poller} {trace : List (Sigma Effect.Answer)} {outcome : TickOutcome}
    {saved saved' : Option UInt64}, poller.state = .tracking position →
    poller.tick.Returns
      (⟨.historySince poller.account position, (server.fetch client position pages).1⟩ :: trace)
      (outcome, after) →
    CursorRun poller.account saved
      (⟨.historySince poller.account position, (server.fetch client position pages).1⟩ :: trace)
      saved' →
    poller.Heeds position (server.fetch client position pages).1 trace after saved saved'

section Example

/-- A reply with a body of JSON. -/
def answered (value : Json.Value) : Except String Reply :=
  .ok ⟨200, value.bytes⟩

/-- A page with two records, of which the first adds two messages. -/
def firstPage : Except String Reply :=
  answered (.object
    [("history", .array
      [.object [("messagesAdded", .array
        [.object [("message", .object [("id", .string "m1"), ("threadId", .string "t1")])],
         .object [("message", .object [("id", .string "m2"), ("labelIds", .array [.string "SPAM"])])]])],
       .object [("messagesAdded", .array [.object [("message", .object [("id", .string "m3")])]])]]),
     ("historyId", .natural 7), ("nextPageToken", .string "next")])

/-- A page with a message that has no id, and with a position that is no number. -/
def lastPage : Except String Reply :=
  answered (.object
    [("history", .array
      [.object [("messagesAdded", .array
        [.object [("message", .object [("threadId", .string "t0")])],
         .object [("message", .object
          [("id", .string "m4"), ("labelIds", .array [.string "INBOX"])])]])]]),
     ("historyId", .string "soon"), ("nextPageToken", .string "")])

def firstListing : Listing :=
  ⟨[[⟨"m1", "t1", []⟩, ⟨"m2", "", ["SPAM"]⟩], [⟨"m3", "", []⟩]], some (.number 7), some "next"⟩

def lastListing : Listing :=
  ⟨[[⟨"", "t0", []⟩, ⟨"m4", "", ["INBOX"]⟩]], some (.text "soon"), some ""⟩

def exampleClient : MailboxClient := .new "me" "t" "http://mail/"

def exampleDetails : MessageDetails :=
  ⟨"", "t2", ["INBOX"], "See you", [("from", "Ann"), ("SUBJECT", "=?utf-8?q?Caf=C3=A9?=")]⟩

/-- What a mailbox tells about a message, without an id of its own. -/
def detailsReply : Except String Reply :=
  answered (.object
    [("threadId", .string "t2"), ("labelIds", .array [.string "INBOX"]),
     ("snippet", .string "See you"), ("payload", .object [("headers", .array
      [.object [("name", .string "from"), ("value", .string "Ann")],
       .object [("name", .string "SUBJECT"), ("value", .string "=?utf-8?q?Caf=C3=A9?=")]])])])

/-- A server that tells something about one message only. -/
def reticent : MailServer where
  clock _ := 0
  reply _ call := if call.url = "http://mail/messages/m2" then detailsReply else .error "down"
  closed := "closed"

theorem pageTells_firstPage : PageTells exampleClient 5 firstPage (.ok firstListing) :=
  pageTells_of_run (by decide) (by decide +kernel)

theorem pageTells_lastPage : PageTells exampleClient 5 lastPage (.ok lastListing) :=
  pageTells_of_run (by decide) (by decide +kernel)

theorem lastPosition_firstListing : LastPosition 0 [firstListing] 7 := by
  rw [← List.nil_append [firstListing]]
  exact .reported ⟨_, rfl, .number 7⟩

theorem tellsDetails_detailsReply : TellsDetails detailsReply exampleDetails :=
  tellsDetails_of_run (by decide) (by decide +kernel)

theorem completes_exampleDetails {message : MessageReference} (hid : message.id = "m2") :
    Completes message exampleDetails ⟨"m2", "t2", ["INBOX"], "Café", "Ann", "See you"⟩ where
  id := by rw [hid]; decide
  thread := rfl
  labels := rfl
  subject := by
    have hdecoded : Text.EncodedWord.decode "=?utf-8?q?Caf=C3=A9?=" = "Café" := by decide +kernel
    rw [← hdecoded]
    exact .later (mt Text.map_asciiLower_eq_iff.2 (by decide))
      (.encoded (Text.map_asciiLower_eq_iff.1 (by decide)) (by decide))
  sender := .plain (Text.map_asciiLower_eq_iff.1 (by decide)) (by decide)
  snippet := rfl

end Example

end MailServer

end EventRelay
