import EventRelay.Json.Value
import EventRelay.Proofs.Pipeline.Deliveries
import Mathlib.Data.List.Perm.Basic

namespace EventRelay

namespace Board

variable {board : Board} {name id : String}

theorem mem_of_listName? (hname : board.listName? id = some name) : (name, id) ∈ board.lists := by
  obtain ⟨⟨found, listId⟩, hfound, rfl⟩ := Option.map_eq_some_iff.1 hname
  obtain rfl : listId = id := by simpa using List.find?_some hfound
  exact List.mem_of_find?_eq_some hfound

/-- Each name of a list comes first in some order of the names. -/
theorem exists_perm_listName? (hmem : (name, id) ∈ board.lists) :
    ∃ lists, lists.Perm board.lists ∧ listName? ⟨lists, board.rules⟩ id = some name := by
  refine ⟨(name, id) :: board.lists.erase (name, id), (List.perm_cons_erase hmem).symm, ?_⟩
  simp [listName?]

end Board

namespace Trello

variable {board : Board} {call : Call} {body : List UInt8} {event : Event}

theorem event?_eq (hcall : Call.decoder.run body = .ok call) : event? board body = call.event? board := by
  simp only [event?, hcall]

theorem Call.facts_toEvent (call : Call) (source : Source) (kind list : String) :
    (call.toEvent source kind list).facts.get Fact.list = list := by
  rfl

/-- A move makes an event exactly if the first of the names of the list, in the order at hand, is not
that of the comment-only list. -/
theorem Call.event?_of_move (haction : call.action = "updateCard") :
    call.event? board = some event ↔ call.listAfter.id ≠ "" ∧ ∃ name,
      board.listName? call.listAfter.id = some name ∧ name ≠ commentOnlyList ∧
        event = call.toEvent .cardMove cardMoved name := by
  rw [Call.event?, if_pos haction]
  by_cases hid : call.listAfter.id = ""
  · simp [hid]
  · rw [if_neg hid]
    cases hname : board.listName? call.listAfter.id with
    | none => simp
    | some name => by_cases hbarred : name = commentOnlyList <;> simp [hid, hbarred, eq_comm]

theorem Call.kind_of_event? (hevent : call.event? board = some event)
    (hkind : event.kind = cardMoved) : call.action = "updateCard" := by
  by_cases hmove : call.action = "updateCard"
  · exact hmove
  · have hother : commentAdded ≠ cardMoved := by decide
    rw [Call.event?, if_neg hmove] at hevent
    split at hevent
    · split at hevent
      · cases hevent
      · cases hevent
        exact absurd hkind hother
    · cases hevent

/-- A card is moved into the comment-only list. -/
def Call.EntersCommentOnly (call : Call) (board : Board) : Prop :=
  call.action = "updateCard" ∧ (commentOnlyList, call.listAfter.id) ∈ board.lists

instance (call : Call) (board : Board) : Decidable (call.EntersCommentOnly board) :=
  inferInstanceAs (Decidable (_ ∧ _))

theorem Call.event?_eq_none_of_enters (henters : call.EntersCommentOnly board)
    (hown : ∀ name, (name, call.listAfter.id) ∈ board.lists → name = commentOnlyList) :
    call.event? board = none := by
  refine Option.eq_none_iff_forall_ne_some.2 fun event hevent => ?_
  obtain ⟨-, name, hname, hother, -⟩ := (Call.event?_of_move henters.1).1 hevent
  exact hother (hown name (Board.mem_of_listName? hname))

/-- Moves into the comment-only list are dropped in every order of the names exactly if the list has no
other name. -/
theorem Call.forall_perm_event?_eq_none_iff (henters : call.EntersCommentOnly board) :
    (∀ lists, lists.Perm board.lists → call.event? ⟨lists, board.rules⟩ = none) ↔
      call.listAfter.id = "" ∨
        ∀ name, (name, call.listAfter.id) ∈ board.lists → name = commentOnlyList := by
  constructor
  · intro hnone
    refine or_iff_not_imp_left.2 fun hid name hmem => ?_
    by_contra hother
    obtain ⟨lists, hperm, hname⟩ := Board.exists_perm_listName? hmem
    have hevent := (Call.event?_of_move henters.1).2 ⟨hid, name, hname, hother, rfl⟩
    rw [hnone lists hperm] at hevent
    cases hevent
  · rintro (hid | hown) lists hperm
    · refine Option.eq_none_iff_forall_ne_some.2 fun event hevent => ?_
      exact ((Call.event?_of_move henters.1).1 hevent).1 hid
    · refine Call.event?_eq_none_of_enters ⟨henters.1, hperm.mem_iff.2 henters.2⟩ ?_
      exact fun name hmem => hown name (hperm.mem_iff.1 hmem)

/-- The body is that of a call about a card that is moved into the comment-only list. -/
def entersCommentOnly (board : Board) (body : List UInt8) : Bool :=
  match Call.decoder.run body with
  | .ok call => call.EntersCommentOnly board
  | .error _ => false

theorem entersCommentOnly_iff : entersCommentOnly board body = true ↔
    ∃ call, Call.decoder.run body = .ok call ∧ call.EntersCommentOnly board := by
  rw [entersCommentOnly]
  cases Call.decoder.run body <;> simp

/-- Calls that are handled one after the other, each in a setting of its own. -/
def sceneAfter (ingest : PushIngest) (scene : Scene) (calls : List (Setting × List UInt8)) : Scene :=
  calls.foldl (fun scene call => (call.1.play (ingest.handle .trello call.2 "") scene).2) scene

theorem play_handle_of_none {ingest : PushIngest} (hnone : event? ingest.board body = none)
    (setting : Setting) (scene : Scene) :
    setting.play (ingest.handle .trello body "") scene = (false, scene) := by
  rw [PushIngest.handle, PushIngest.event?, hnone]
  rfl

/-- Calls that make no event can be left out of a run. -/
theorem sceneAfter_filter {ingest : PushIngest} {dropped : List UInt8 → Bool}
    (hdropped : ∀ body, dropped body = true → event? ingest.board body = none)
    (scene : Scene) (calls : List (Setting × List UInt8)) :
    sceneAfter ingest scene calls =
      sceneAfter ingest scene (calls.filter fun call => !dropped call.2) := by
  induction calls generalizing scene with
  | nil => rfl
  | cons call calls ih =>
    cases hcall : dropped call.2 with
    | false =>
      rw [List.filter_cons_of_pos (by simp [hcall])]
      exact ih _
    | true =>
      rw [List.filter_cons_of_neg (by simp [hcall]), ← ih]
      simp only [sceneAfter, List.foldl_cons, play_handle_of_none (hdropped _ hcall)]

/-- What becomes of moves on a board, whatever its rules are. -/
structure Watched (ingest : PushIngest) : Prop where
  /-- A card is only ever reported as moved to a list that is watched under a name of its own, and that
  name is the fact which rules see. -/
  named : ∀ (body : List UInt8) (event : Event), event? ingest.board body = some event →
    event.kind = cardMoved → ∃ call name, Call.decoder.run body = .ok call ∧
      call.listAfter.id ≠ "" ∧ name ≠ commentOnlyList ∧
      (name, call.listAfter.id) ∈ ingest.board.lists ∧ event.facts.get Fact.list = name
  /-- The order of the names decides about moves into a comment-only list that has other names too. -/
  dropped_iff : ∀ (body : List UInt8) (call : Call), Call.decoder.run body = .ok call →
    call.EntersCommentOnly ingest.board →
      ((∀ lists, lists.Perm ingest.board.lists → event? ⟨lists, ingest.board.rules⟩ body = none) ↔
        call.listAfter.id = "" ∨
          ∀ name, (name, call.listAfter.id) ∈ ingest.board.lists → name = commentOnlyList)
  /-- If it has no other name, they leave no trace in the deduplicator and at the gateway, wherever they
  come in a run. -/
  unheard : (∀ name id, (name, id) ∈ ingest.board.lists → (commentOnlyList, id) ∈ ingest.board.lists →
      name = commentOnlyList) → ∀ (scene : Scene) (calls : List (Setting × List UInt8)),
    sceneAfter ingest scene calls =
      sceneAfter ingest scene (calls.filter fun call => !entersCommentOnly ingest.board call.2)

/-- Cards are reported only as moved to lists with a name other than that of the comment-only list. Moves
into that list are kept from the pipeline as long as its id has no second name. -/
theorem moves_watched (ingest : PushIngest) : Watched ingest where
  named := by
    intro body event hevent hkind
    cases hcall : Call.decoder.run body with
    | error fault =>
      rw [event?, hcall] at hevent
      cases hevent
    | ok call =>
      rw [event?_eq hcall] at hevent
      have hmove := Call.kind_of_event? hevent hkind
      obtain ⟨hid, name, hname, hother, rfl⟩ := (Call.event?_of_move hmove).1 hevent
      exact ⟨call, name, rfl, hid, hother, Board.mem_of_listName? hname,
        call.facts_toEvent .cardMove cardMoved name⟩
  dropped_iff := by
    intro body call hcall henters
    simp only [event?_eq hcall]
    exact Call.forall_perm_event?_eq_none_iff henters
  unheard := by
    intro hown
    refine sceneAfter_filter fun body hbody => ?_
    obtain ⟨call, hcall, henters⟩ := entersCommentOnly_iff.1 hbody
    rw [event?_eq hcall]
    exact Call.event?_eq_none_of_enters henters fun name hmem => hown name _ hmem henters.2

/-- The body of a call about a card that was moved to a list. -/
def moveBody (id : String) : List UInt8 :=
  (Json.Value.object [("action", .object [("type", .string "updateCard"), ("data", .object
    [("card", .object [("id", .string "c1")]), ("listAfter", .object [("id", .string id)])])])]).bytes

def moveCall (id : String) : Call :=
  ⟨"updateCard", ⟨"c1", ""⟩, ⟨id, ""⟩, .blank⟩

/-- A board whose comment-only list is also watched as `ready` lets a move into it through to the
gateway in one order of the names, and drops it in the other. -/
theorem exists_dispatched_move : ∃ (rule : Rule) (setting : Setting) (scene : Scene) (call : Call),
    let ready : PushIngest := .new ⟨[("ready", "l"), ("questions", "l")], [rule]⟩ [] .all
    let questions : PushIngest := .new ⟨[("questions", "l"), ("ready", "l")], [rule]⟩ [] .all
    Call.decoder.run (moveBody "l") = .ok call ∧ call.EntersCommentOnly ready.board ∧
      scene.dedup.seen = [] ∧ scene.calls = [] ∧
      (setting.play (ready.handle .trello (moveBody "l") "") scene).1 = true ∧
      (setting.play (ready.handle .trello (moveBody "l") "") scene).2.dedup.seen =
        [("card_move:c1:updateCard", setting.time)] ∧
      (setting.play (ready.handle .trello (moveBody "l") "") scene).2.calls.length = 1 ∧
      setting.play (questions.handle .trello (moveBody "l") "") scene = (false, scene) := by
  have hcall : Call.decoder.run (moveBody "l") = .ok (moveCall "l") := by decide +kernel
  refine ⟨⟨"", cardMoved, .always, .anything, .unset⟩, Pipeline.settingAt 3 (.ok ()),
    ⟨.new 300000, []⟩, moveCall "l", hcall, by decide, rfl, rfl, ?_, ?_, ?_, ?_⟩
  · decide +kernel
  · decide +kernel
  · decide +kernel
  · refine play_handle_of_none ?_ _ _
    rw [event?_eq hcall]
    decide

end Trello

end EventRelay
