import EventRelay.Http.Server
import EventRelay.Proofs.Script.Trace
import EventRelay.Proofs.Signature
import EventRelay.Proofs.Text.Utf8

namespace EventRelay.Http

open Script

theorem Route.ofPath?_eq_some_iff {path : String} {route : Route} :
    ofPath? path = some route ↔ path = route.path := by
  constructor
  · intro hfound
    have hpath := List.find?_some hfound
    simpa using (beq_iff_eq.1 hpath).symm
  · rintro rfl
    cases route with
    | health => decide
    | status => decide
    | webhook source => cases source <;> decide

namespace Headers

/-- A value that is not empty reads as a text exactly when it is readable and consists of the bytes of
the text. -/
theorem text_eq_iff {value : List UInt8} {wanted : String} (hwanted : wanted ≠ "") :
    text value = wanted ↔
      value.all isReadable = true ∧ value = Text.Utf8.encode wanted.toList := by
  cases hreadable : value.all isReadable with
  | false => simp [text, hreadable, hwanted.symm]
  | true =>
    have hascii : ∀ b ∈ value, b.toNat < 128 := by
      intro b hmem
      have hb := List.all_eq_true.1 hreadable b hmem
      simp only [isReadable, Bool.or_eq_true, Bool.and_eq_true, decide_eq_true_eq, beq_iff_eq] at hb
      obtain ⟨-, hlt⟩ | rfl := hb
      · exact Nat.lt_trans (UInt8.lt_iff_toNat_lt.1 hlt) (by decide)
      · decide
    have hbytes := Text.Utf8.encode_map_ofNat hascii
    simp only [text, hreadable, if_true, true_and]
    constructor
    · rintro rfl
      rw [String.toList_ofList, hbytes]
    · intro hvalue
      rw [hvalue] at hbytes
      have hchars := Text.Utf8.encode_injective hbytes
      rw [hvalue, hchars, String.ofList_toList]

/-- Only the first of several headers of one name is read. -/
theorem get_eq_iff {headers : Headers} {name wanted : String} (hwanted : wanted ≠ "") :
    headers.get name = wanted ↔ ∃ written value,
      headers.find? (isNamed name) = some (written, value) ∧
        value.all isReadable = true ∧ value = Text.Utf8.encode wanted.toList := by
  rw [get]
  cases hfirst : headers.find? (isNamed name) with
  | none => simp [hwanted.symm]
  | some header =>
    obtain ⟨written, value⟩ := header
    refine (text_eq_iff hwanted).trans ⟨fun hvalue => ⟨written, value, rfl, hvalue⟩, ?_⟩
    rintro ⟨_, _, ⟨⟩, hvalue⟩
    exact hvalue

end Headers

namespace Server

variable {server : Server} {source : PushSource} {request : Request}

/-- A call carries the signature that its source makes of the body with the secret, blanks around it
apart. Trello signs the body followed by the URL that was called. Without a secret nothing is asked. -/
def Signed (server : Server) (request : Request) : PushSource → Prop
  | .trello => server.trelloSecret ≠ "" → ∃ signature,
    Text.IsTrimmed (request.headers.get "x-trello-webhook").toList signature ∧
      Digest.Base64.Spells signature
        (Digest.hmacSha1 (Text.Utf8.encode server.trelloSecret.toList) (request.body ++
          Text.Utf8.encode (server.trelloCallbackUrl?.getD
            ("https://" ++ request.headers.get "host" ++ request.path)).toList))
  | .github => server.githubSecret ≠ "" → ∃ digits,
    Text.IsTrimmed (request.headers.get "x-hub-signature-256").toList ("sha256=".toList ++ digits) ∧
      Digest.Hex.Spells digits
        (Digest.hmacSha256 (Text.Utf8.encode server.githubSecret.toList) request.body)

theorem verifies_iff : server.verifies source request = true ↔ server.Signed request source := by
  cases source with
  | trello =>
    simp only [verifies, Signature.trelloAccepts, Signature.boardDigest, Signature.secretBytes,
      signatureHeader, callbackUrl, Signed, Bool.or_eq_true, beq_iff_eq, Option.any_eq_true,
      exists_eq_right, ne_eq, or_iff_not_imp_left, Text.isTrimmed_iff, Digest.Base64.spells_iff,
      Digest.Base64.decode?_eq_some_iff]
  | github =>
    have hscheme : "sha256=".toList = Signature.scheme := by decide
    simp only [verifies, Signature.githubAccepts, Signature.repositoryDigest, Signature.secretBytes,
      signatureHeader, Signed, Bool.or_eq_true, beq_iff_eq, Option.any_eq_true, exists_eq_right,
      ne_eq, or_iff_not_imp_left, Text.isTrimmed_iff, Digest.Hex.spells_iff, hscheme,
      Signature.spelledDigest?_eq_some_iff]

/-- A webhook call that is let through. -/
structure Passes (server : Server) (source : PushSource) (request : Request) : Prop where
  method_eq : request.method = "POST"
  path_eq : request.path = "/webhook/" ++ source.tag
  length_le : request.body.length ≤ 25 * 1024 * 1024
  signed : server.Signed request source

theorem receive_eq : server.receive source request =
    if 25 * 1024 * 1024 < request.body.length then .done tooLarge
    else if server.verifies source request then
      (server.ingest.handle source request.body (request.headers.get githubEventHeader)).bind
        fun _ => .done accepted
    else .done forbidden := by
  rw [receive, maxWebhookBody]
  split
  · rfl
  · cases server.verifies source request <;> rfl

/-- A webhook takes every call that is posted to its path, and no other method gets as far. -/
theorem respond_post (hmethod : request.method = "POST")
    (hpath : request.path = "/webhook/" ++ source.tag) :
    server.respond request = server.receive source request := by
  have hroute : Route.ofPath? request.path = some (.webhook source) :=
    Route.ofPath?_eq_some_iff.2 hpath
  have hallows : (Route.webhook source).allows request.method = true := by
    rw [hmethod]
    cases source <;> decide
  have hhead : request.method ≠ "HEAD" := by
    rw [hmethod]
    decide
  have hrejects : server.rejects (.webhook source) request = false := rfl
  simp [respond, hroute, visit, hrejects, hallows, answer, hhead, bind_done]

/-- What a resource answers, before the methods that it allows are named. -/
def reply (server : Server) (route : Route) (request : Request) : RelayM Response :=
  if server.rejects route request then .done unauthorized
  else if route.allows request.method then server.answer route request
  else .done (.empty 405)

theorem visit_of_reply {route : Route} {response : Response}
    (hreply : server.reply route request = .done response) :
    ∃ allow?, server.visit route request = .done { response with allow? := allow? } := by
  have hvisit : server.visit route request = (server.reply route request).bind fun response =>
      if route.allows request.method then .done response
      else .done { response with allow? := some route.allowText } := by
    simp only [visit, reply, pure_eq_done, bind_eq_bind, done_bind]
    split
    · rfl
    · split <;> rfl
  rw [hvisit, hreply, done_bind]
  split
  · exact ⟨response.allow?, rfl⟩
  · exact ⟨some route.allowText, rfl⟩

theorem reply_quiet {route : Route}
    (hquiet : ∀ source, route = .webhook source → request.method ≠ "POST") :
    ∃ response, server.reply route request = .done response := by
  rw [reply]
  split
  · exact ⟨_, rfl⟩
  · split
    · rename_i hallows
      cases route with
      | health => exact ⟨_, rfl⟩
      | status => exact ⟨_, rfl⟩
      | webhook source =>
        have hpost := hquiet source rfl
        have hhead : request.method = "HEAD" := by
          cases source <;> simp_all [Route.allows, Route.methods]
        exact ⟨.empty 200, if_pos hhead⟩
    · exact ⟨_, rfl⟩

theorem respond_of_visit {route : Route} {response : Response} (hpath : request.path = route.path)
    (hvisit : server.visit route request = .done response) :
    ∃ body, server.respond request = .done { response with body := body } := by
  simp only [respond, pure_eq_done, bind_eq_bind, Route.ofPath?_eq_some_iff.2 hpath, hvisit, done_bind]
  split
  · exact ⟨"", rfl⟩
  · exact ⟨response.body, rfl⟩

/-- Whatever is not posted to a webhook is answered without asking anything. -/
theorem respond_quiet
    (hquiet : ∀ source : PushSource, request.path = "/webhook/" ++ source.tag →
      request.method ≠ "POST") :
    ∃ response, server.respond request = .done response := by
  cases hroute : Route.ofPath? request.path with
  | none =>
    simp only [respond, pure_eq_done, bind_eq_bind, hroute, done_bind]
    split <;> exact ⟨_, rfl⟩
  | some route =>
    have hpath := Route.ofPath?_eq_some_iff.1 hroute
    have hroutes : ∀ source, route = .webhook source → request.method ≠ "POST" := by
      rintro source rfl
      exact hquiet source hpath
    obtain ⟨response, hreply⟩ := reply_quiet hroutes
    obtain ⟨allow?, hvisit⟩ := visit_of_reply hreply
    obtain ⟨body, hrespond⟩ := respond_of_visit hpath hvisit
    exact ⟨_, hrespond⟩

theorem respond_internal (server : Server) (hpath : request.path = "/api/status") :
    ∃ response, server.respond request = .done response ∧
      (response.status = 401 ↔ server.admits request = false) := by
  have hreply : ∃ response, server.reply .status request = .done response ∧
      (response.status = 401 ↔ server.admits request = false) := by
    cases hadmits : server.admits request with
    | false =>
      exact ⟨unauthorized, by simp [reply, rejects, hadmits], by simp [unauthorized, Response.json]⟩
    | true =>
      have hrejects : server.rejects .status request = false := by simp [rejects, hadmits]
      rw [reply, hrejects, if_neg Bool.false_ne_true]
      split
      · exact ⟨serviceStatus, rfl, by simp [serviceStatus, Response.json]⟩
      · exact ⟨.empty 405, rfl, by simp [Response.empty]⟩
  obtain ⟨response, hreply, hstatus⟩ := hreply
  obtain ⟨allow?, hvisit⟩ := visit_of_reply hreply
  obtain ⟨body, hrespond⟩ := respond_of_visit hpath hvisit
  exact ⟨_, hrespond, hstatus⟩

theorem accepted_eq :
    accepted = ⟨200, some "application/json", none, "\x7b\"ok\":true\x7d"⟩ := by
  decide

/-- What becomes of a call. -/
structure Gated (server : Server) (request : Request) : Prop where
  /-- A webhook call that passes has the effect of handing its body on, and no other. It is accepted
  whatever becomes of the event. Only GitHub names the kind of event, in a header. -/
  passed : ∀ source tag, server.Passes source request →
    (source = .github → tag = request.headers.get "x-github-event") →
      server.respond request = (server.ingest.handle source request.body tag).bind
        fun _ => .done ⟨200, some "application/json", none, "\x7b\"ok\":true\x7d"⟩
  /-- Every other call is answered without asking anything of the surroundings. -/
  quiet : (∀ source, ¬ server.Passes source request) →
    ∃ response, server.respond request = .done response
  /-- The length of a body counts before its signature does. -/
  tooLarge : ∀ source : PushSource, request.method = "POST" →
    request.path = "/webhook/" ++ source.tag → 25 * 1024 * 1024 < request.body.length →
      ∃ response, server.respond request = .done response ∧ response.status = 413
  forged : ∀ source : PushSource, request.method = "POST" →
    request.path = "/webhook/" ++ source.tag → request.body.length ≤ 25 * 1024 * 1024 →
      ¬ server.Signed request source →
        ∃ response, server.respond request = .done response ∧ response.status = 403
  /-- With a token, internal resources are open to calls of any method whose first token header has the
  bytes of the token, as long as these are readable in a header at all. -/
  internal : server.internalToken ≠ "" → request.path = "/api/status" →
    ∃ response, server.respond request = .done response ∧
      (response.status = 401 ↔ ¬ ∃ written value,
        request.headers.find? (Headers.isNamed "x-relay-token") = some (written, value) ∧
          value.all Headers.isReadable = true ∧
          value = Text.Utf8.encode server.internalToken.toList)

theorem Passes.respond_eq (hpasses : server.Passes source request) {tag : String}
    (htag : source = .github → tag = request.headers.get "x-github-event") :
    server.respond request = (server.ingest.handle source request.body tag).bind
      fun _ => .done ⟨200, some "application/json", none, "\x7b\"ok\":true\x7d"⟩ := by
  obtain ⟨hmethod, hpath, hlength, hsigned⟩ := hpasses
  rw [respond_post hmethod hpath, receive_eq, if_neg (Nat.not_lt.2 hlength),
    if_pos (verifies_iff.2 hsigned), accepted_eq]
  cases source with
  | trello => rfl
  | github => rw [htag rfl, githubEventHeader]

theorem respond_tooLarge (hmethod : request.method = "POST")
    (hpath : request.path = "/webhook/" ++ source.tag)
    (hlength : 25 * 1024 * 1024 < request.body.length) :
    server.respond request = .done tooLarge := by
  rw [respond_post hmethod hpath, receive_eq, if_pos hlength]

theorem respond_forged (hmethod : request.method = "POST")
    (hpath : request.path = "/webhook/" ++ source.tag)
    (hlength : request.body.length ≤ 25 * 1024 * 1024) (hforged : ¬ server.Signed request source) :
    server.respond request = .done forbidden := by
  rw [respond_post hmethod hpath, receive_eq, if_neg (Nat.not_lt.2 hlength),
    if_neg (mt verifies_iff.1 hforged)]

theorem admits_iff (htoken : server.internalToken ≠ "") :
    server.admits request = true ↔ ∃ written value,
      request.headers.find? (Headers.isNamed "x-relay-token") = some (written, value) ∧
        value.all Headers.isReadable = true ∧
        value = Text.Utf8.encode server.internalToken.toList := by
  rw [admits, Bool.or_eq_true, beq_iff_eq, or_iff_right htoken, beq_iff_eq, internalTokenHeader,
    Headers.get_eq_iff htoken]

/-- Only a webhook call that is posted to the path of its source, is not too large and is signed reaches
the deduplicator and the gateway. It is accepted then, and every call that is turned away leaves no
trace. -/
theorem respond_gated (server : Server) (request : Request) : server.Gated request where
  passed source tag hpasses htag := hpasses.respond_eq htag
  quiet := by
    intro hquiet
    by_cases hpost : ∃ source : PushSource, request.path = "/webhook/" ++ source.tag ∧
        request.method = "POST"
    · obtain ⟨source, hpath, hmethod⟩ := hpost
      by_cases hlength : request.body.length ≤ 25 * 1024 * 1024
      · have hforged : ¬ server.Signed request source :=
          fun hsigned => hquiet source ⟨hmethod, hpath, hlength, hsigned⟩
        exact ⟨_, respond_forged hmethod hpath hlength hforged⟩
      · exact ⟨_, respond_tooLarge hmethod hpath (Nat.not_le.1 hlength)⟩
    · exact respond_quiet fun source hpath hmethod => hpost ⟨source, hpath, hmethod⟩
  tooLarge source hmethod hpath hlength := ⟨_, respond_tooLarge hmethod hpath hlength, rfl⟩
  forged source hmethod hpath hlength hforged :=
    ⟨_, respond_forged hmethod hpath hlength hforged, rfl⟩
  internal := by
    intro htoken hpath
    obtain ⟨response, hrespond, hstatus⟩ := server.respond_internal hpath
    refine ⟨response, hrespond, hstatus.trans ?_⟩
    rw [← admits_iff htoken, Bool.not_eq_true]

/-- A Trello call with two hosts, signed for the first of them, and a GitHub call whose signature has
capitals and a blank in front. -/
theorem respond_gated_of_signed_calls :
    let server : Server := ⟨⟨⟨[], []⟩, [], .all⟩, "s", none, "s", ""⟩
    let moved : Request := ⟨"POST", "/webhook/trello", [("Host", [0x68]), ("host", [0x69]),
      ("X-Trello-Webhook", Text.Utf8.encode "xopQBpzu19fXs+90zuTdwv8n/Is=".toList)], [0x7B, 0x7D]⟩
    let checked : Request := ⟨"POST", "/webhook/github",
      [("X-GitHub-Event", Text.Utf8.encode "check_run".toList), ("X-Hub-Signature-256",
        Text.Utf8.encode (" sha256=143CA8D517BA1B181025D732B1CF275D".toList ++
          "90104FCA57BB02A565542978AA18C4B6".toList))], [0x7B, 0x7D]⟩
    server.Passes .trello moved ∧ server.Passes .github checked ∧
      (server.respond moved = (server.ingest.handle .trello [0x7B, 0x7D] "").bind
        fun _ => .done ⟨200, some "application/json", none, "\x7b\"ok\":true\x7d"⟩) ∧
      server.respond checked = (server.ingest.handle .github [0x7B, 0x7D] "check_run").bind
        fun _ => .done ⟨200, some "application/json", none, "\x7b\"ok\":true\x7d"⟩ := by
  intro server moved checked
  have hmoved : server.Passes .trello moved :=
    ⟨rfl, by decide, by decide, verifies_iff.1 (by decide +kernel)⟩
  have hchecked : server.Passes .github checked :=
    ⟨rfl, by decide, by decide, verifies_iff.1 (by decide +kernel)⟩
  have htag : "check_run" = checked.headers.get "x-github-event" := by decide +kernel
  exact ⟨hmoved, hchecked, (respond_gated server moved).passed .trello "" hmoved nofun,
    (respond_gated server checked).passed .github "check_run" hchecked fun _ => htag⟩

end Server

end EventRelay.Http
