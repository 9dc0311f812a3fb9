import EventRelay.Json.Decoder
import EventRelay.Proofs.Except
import Mathlib.Data.List.Nodup

namespace EventRelay.Json

/-- A name in an object is one of some names. -/
def StringToken.isOneOf (names : List String) (token : StringToken) : Bool :=
  match token.text with
  | .ok name => names.contains name
  | .error _ => false

theorem StringToken.isOneOf_iff {names : List String} {token : StringToken} {name : String}
    (htext : token.text = .ok name) : token.isOneOf names = true ↔ name ∈ names := by
  rw [isOneOf, htext, List.contains_iff_mem]

/-- The values that members of an object with one of some names have. -/
def valuesUnder (names : List String) : List (StringToken × Node) → List Node
  | [] => []
  | (token, node) :: rest =>
    if token.isOneOf names then node :: valuesUnder names rest else valuesUnder names rest

namespace Node

/-- The values that a record gives for a field: under the names of the field if it is written as an
object, at its place if it is written as an array. -/
def given (names : List String) (place : Nat) : Node → List Node
  | .object members _ => valuesUnder names members
  | .array items _ => items[place]?.toList
  | _ => []

/-- A record gives a field at most once. The field has the value that is read there, or else its
default. -/
def Gives {α : Type} (node : Node) (names : List String) (place : Nat) (reads : Node → α → Prop)
    (default value : α) : Prop :=
  node.given names place = [] ∧ value = default ∨
    ∃ written, node.given names place = [written] ∧ reads written value

theorem Gives.imp {α : Type} {node : Node} {names : List String} {place : Nat}
    {reads reads' : Node → α → Prop} {default value : α}
    (hgives : node.Gives names place reads default value)
    (himp : ∀ written, reads written value → reads' written value) :
    node.Gives names place reads' default value :=
  hgives.imp_right fun ⟨written, hgiven, hreads⟩ => ⟨written, hgiven, himp written hreads⟩

theorem Gives.unique {α : Type} {node : Node} {names : List String} {place : Nat}
    {reads : Node → α → Prop} {default value value' : α}
    (hgives : node.Gives names place reads default value)
    (hgives' : node.Gives names place reads default value')
    (hreads : ∀ written, reads written value → reads written value' → value = value') :
    value = value' := by
  obtain ⟨hnone, rfl⟩ | ⟨written, hgiven, hvalue⟩ := hgives
  · obtain ⟨-, rfl⟩ | ⟨written, hgiven, -⟩ := hgives'
    · rfl
    · cases hnone.symm.trans hgiven
  · obtain ⟨hnone, -⟩ | ⟨written', hgiven', hvalue'⟩ := hgives'
    · cases hnone.symm.trans hgiven
    · cases hgiven.symm.trans hgiven'
      exact hreads written hvalue hvalue'

/-- A field that may be null, which stands for no value. -/
def Optionally {α : Type} (reads : Node → α → Prop) (node : Node) : Option α → Prop
  | none => node = .literal .null
  | some value => node ≠ .literal .null ∧ reads node value

theorem Optionally.unique {α : Type} {reads : Node → α → Prop} {node : Node}
    {value? value?' : Option α} (hvalue : node.Optionally reads value?)
    (hvalue' : node.Optionally reads value?')
    (hreads : ∀ value value', reads node value → reads node value' → value = value') :
    value? = value?' := by
  cases value? with
  | none =>
    cases value?' with
    | none => rfl
    | some => exact absurd hvalue hvalue'.1
  | some value =>
    cases value?' with
    | none => exact absurd hvalue' hvalue.1
    | some value' => rw [hreads value value' hvalue.2 hvalue'.2]

theorem Optionally.unique_of_decoder {α : Type} {decoder : Decoder α} {node : Node}
    {value? value?' : Option α} (hvalue : node.Optionally (decoder · = .ok ·) value?)
    (hvalue' : node.Optionally (decoder · = .ok ·) value?') : value? = value?' :=
  hvalue.unique hvalue' fun _ _ => eq_of_eq_ok

theorem optionally_of_decoder {α : Type} {decoder : Decoder α} {reads : Node → α → Prop}
    {node : Node} (hdecoder : ∀ value, decoder node = .ok value → reads node value) {value? : Option α}
    (hread : Decoder.optional decoder node = .ok value?) : node.Optionally reads value? := by
  rw [Decoder.optional.eq_def] at hread
  split at hread
  · obtain rfl := Except.ok.inj hread
    rfl
  case h_2 hset =>
    obtain ⟨value, hvalue, rfl⟩ := map_eq_ok.1 hread
    exact ⟨hset, hdecoder value hvalue⟩

theorem optionally_decoder {α : Type} {decoder : Decoder α} {node : Node} {value? : Option α}
    (hread : Decoder.optional decoder node = .ok value?) :
    node.Optionally (decoder · = .ok ·) value? :=
  optionally_of_decoder (fun _ => id) hread

/-- An array whose items have these values. -/
def Lists {α : Type} (reads : Node → α → Prop) (node : Node) (values : List α) : Prop :=
  ∃ items fault?, node = .array items fault? ∧ List.Forall₂ reads items values

theorem lists_of_decoder {α : Type} {decoder : Decoder α} {reads : Node → α → Prop} {node : Node}
    (hdecoder : ∀ node value, decoder node = .ok value → reads node value) {values : List α}
    (hread : Decoder.list decoder node = .ok values) : node.Lists reads values := by
  cases node with
  | literal | brokenLiteral | number | string | object | missing => cases hread
  | array items fault? =>
    rw [Decoder.list, bind_eq_ok] at hread
    obtain ⟨found, hfound, hread⟩ := hread
    obtain ⟨-, -, hread⟩ := bind_eq_ok.1 hread
    obtain rfl := Except.ok.inj hread
    exact ⟨items, fault?, rfl, (mapM_eq_ok.1 hfound).imp hdecoder⟩

theorem lists_decoder {α : Type} {decoder : Decoder α} {node : Node} {values : List α}
    (hread : Decoder.list decoder node = .ok values) : node.Lists (decoder · = .ok ·) values :=
  lists_of_decoder (fun _ _ => id) hread

end Node

namespace Decoder

variable {σ α : Type}

theorem eq_ok_of_run {decoder : Decoder α} {text : List UInt8} {value : α}
    (hrun : decoder.run text = .ok value) : decoder (Document.read text).root = .ok value := by
  obtain ⟨found, hfound, hrun⟩ := bind_eq_ok.1 hrun
  split at hrun
  · cases hrun
  · rwa [← Except.ok.inj hrun]

theorem run_of_root_error {decoder : Decoder α} {text : List UInt8} {fault : Fault}
    (hroot : decoder (Document.read text).root = .error fault) : decoder.run text = .error fault := by
  rw [run, hroot]
  rfl

namespace Field

/-- A field puts what it reads into a part of the record. -/
def Sets (field : Field σ) (part : σ → α) (reads : Node → α → Prop) : Prop :=
  ∀ node before after, field.store node before = .ok after → reads node (part after)

/-- A field leaves a part of the record alone. -/
def Keeps (field : Field σ) (part : σ → α) : Prop :=
  ∀ node before after, field.store node before = .ok after → part after = part before

section

variable {β : Type} {names : List String} {decoder : Decoder β} {set : β → σ → σ}

theorem store_withDefault {node : Node} {before after : σ} :
    (withDefault names decoder set).store node before = .ok after ↔
      ∃ value, decoder node = .ok value ∧ after = set value before := by
  have hstore : (withDefault names decoder set).store node before =
      decoder node >>= fun value => .ok (set value before) := rfl
  rw [hstore, bind_eq_ok]
  simp only [Except.ok.injEq, eq_comm]

theorem sets_withDefault {part : σ → β} (hpart : ∀ value record, part (set value record) = value) :
    (withDefault names decoder set).Sets part fun node value => decoder node = .ok value := by
  intro node before after hstore
  obtain ⟨value, hvalue, rfl⟩ := store_withDefault.1 hstore
  rwa [hpart]

theorem keeps_withDefault {part : σ → α}
    (hpart : ∀ value record, part (set value record) = part record) :
    (withDefault names decoder set).Keeps part := by
  intro node before after hstore
  obtain ⟨value, -, rfl⟩ := store_withDefault.1 hstore
  exact hpart value before

theorem sets_needed {name : String} {part : σ → β}
    (hpart : ∀ value record, part (set value record) = value) :
    (needed name decoder set).Sets part fun node value => decoder node = .ok value := by
  change (withDefault [name] decoder set).Sets _ _
  exact sets_withDefault hpart

theorem keeps_needed {name : String} {part : σ → α}
    (hpart : ∀ value record, part (set value record) = part record) :
    (needed name decoder set).Keeps part := by
  change (withDefault [name] decoder set).Keeps _
  exact keeps_withDefault hpart

theorem sets_nullable {name : String} {set : Option β → σ → σ} {part : σ → Option β}
    (hpart : ∀ value? record, part (set value? record) = value?) :
    (nullable name decoder set).Sets part fun node value? => optional decoder node = .ok value? := by
  change (withDefault [name] (optional decoder) set).Sets _ _
  exact sets_withDefault hpart

theorem keeps_nullable {name : String} {set : Option β → σ → σ} {part : σ → α}
    (hpart : ∀ value? record, part (set value? record) = part record) :
    (nullable name decoder set).Keeps part := by
  change (withDefault [name] (optional decoder) set).Keeps _
  exact keeps_withDefault hpart

end

variable {fields : List (Field σ)} {field : Field σ} {place : Nat}

theorem of_lookup? {name : String} {found : Field σ}
    (hfound : lookup? fields name = some (found, place)) :
    fields[place]? = some found ∧ name ∈ found.names := by
  have hname := List.find?_some hfound
  exact ⟨List.mem_zipIdx_iff_getElem?.1 (List.mem_of_find?_eq_some hfound), by simpa using hname⟩

theorem notMem_of_lookup? (hfield : fields[place]? = some field) {name : String}
    (hnone : lookup? fields name = none) : name ∉ field.names := by
  intro hname
  have hmiss := List.find?_eq_none.1 hnone (field, place) (List.mem_zipIdx_iff_getElem?.2 hfield)
  exact hmiss (by simpa using hname)

/-- Fields without a name in common are told apart by their names. -/
theorem place_unique (hnames : (fields.flatMap (·.names)).Nodup) {place' : Nat} {field' : Field σ}
    (hfield : fields[place]? = some field) (hfield' : fields[place']? = some field') {name : String}
    (hname : name ∈ field.names) (hname' : name ∈ field'.names) : place = place' := by
  have hapart := List.pairwise_iff_getElem.1 (List.nodup_flatMap.1 hnames).2
  obtain ⟨hlt, rfl⟩ := List.getElem?_eq_some_iff.1 hfield
  obtain ⟨hlt', rfl⟩ := List.getElem?_eq_some_iff.1 hfield'
  rcases Nat.lt_trichotomy place place' with hbefore | heq | hafter
  · exact absurd hname' (hapart place place' hlt hlt' hbefore hname)
  · exact heq
  · exact absurd hname (hapart place' place hlt' hlt hafter hname')

/-- One field of a record decides about a part of it: no other touches the part, and no name leads to two
fields. -/
structure Decides (fields : List (Field σ)) (place : Nat) (field : Field σ) (part : σ → α)
    (reads : Node → α → Prop) : Prop where
  at_place : fields[place]? = some field
  sets : field.Sets part reads
  keeps : ∀ other ∈ fields.eraseIdx place, other.Keeps part
  names_nodup : (fields.flatMap (·.names)).Nodup

variable {part : σ → α} {reads : Node → α → Prop}

/-- The members of an object name the field once at most, and not at all if it was met before. -/
theorem Decides.storeMembers (hdecides : Decides fields place field part reads)
    {members : List (StringToken × Node)} {seen seen' : List Nat} {before after : σ}
    (hstored : storeMembers fields seen before members = .ok (seen', after)) :
    valuesUnder field.names members = [] ∧ part after = part before ∨
      place ∉ seen ∧ ∃ written, valuesUnder field.names members = [written] ∧
        reads written (part after) := by
  induction members generalizing seen before with
  | nil =>
    rw [Field.storeMembers, Except.ok.injEq, Prod.mk.injEq] at hstored
    exact .inl ⟨rfl, by rw [hstored.2]⟩
  | cons member rest ih =>
    obtain ⟨token, node⟩ := member
    rw [Field.storeMembers, bind_eq_ok] at hstored
    obtain ⟨name, hname, hstored⟩ := hstored
    have hone : token.isOneOf field.names = true ↔ name ∈ field.names :=
      StringToken.isOneOf_iff hname
    rw [valuesUnder]
    cases hlookup : lookup? fields name with
    | none =>
      rw [hlookup] at hstored
      obtain ⟨-, -, hstored⟩ := bind_eq_ok.1 hstored
      rw [if_neg (mt hone.1 (notMem_of_lookup? hdecides.at_place hlookup))]
      exact ih hstored
    | some found =>
      obtain ⟨other, place'⟩ := found
      obtain ⟨hother, hothers⟩ := of_lookup? hlookup
      rw [hlookup] at hstored
      dsimp only at hstored
      split at hstored
      case isTrue => cases hstored
      case isFalse hnew =>
      obtain ⟨middle, hmiddle, hstored⟩ := bind_eq_ok.1 hstored
      by_cases hmem : name ∈ field.names
      · -- The rest is read with the place of the field already seen, so it does not name the field again.
        obtain rfl := place_unique hdecides.names_nodup hother hdecides.at_place hothers hmem
        obtain rfl := Option.some.inj (hother.symm.trans hdecides.at_place)
        rw [if_pos (hone.2 hmem)]
        obtain ⟨hnone, hpart⟩ | ⟨hunseen, -⟩ := ih hstored
        · refine .inr ⟨by simpa using hnew, node, by rw [hnone], ?_⟩
          rw [hpart]
          exact hdecides.sets node before middle hmiddle
        · exact absurd List.mem_cons_self hunseen
      · have hne : place' ≠ place := by
          rintro rfl
          obtain rfl := Option.some.inj (hother.symm.trans hdecides.at_place)
          exact hmem hothers
        have hkeeps := hdecides.keeps other (List.mem_eraseIdx_iff_getElem?.2 ⟨place', hne, hother⟩)
        rw [if_neg (mt hone.1 hmem), ← hkeeps node before middle hmiddle]
        obtain hnone | ⟨hunseen, hsome⟩ := ih hstored
        · exact .inl hnone
        · exact .inr ⟨fun hseen => hunseen (List.mem_cons_of_mem _ hseen), hsome⟩

theorem eq_of_storeItems_nil {fault? : Option Fault} {before after : σ}
    (hstored : storeItems fields fault? before [] = .ok after) : after = before := by
  cases fault? with
  | some fault => cases fields <;> cases hstored
  | none =>
    rw [storeItems] at hstored
    split at hstored
    · exact (Except.ok.inj hstored).symm
    · cases hstored

theorem storeItems_keeps (hkeeps : ∀ other ∈ fields, other.Keeps part) {items : List Node}
    {fault? : Option Fault} {before after : σ}
    (hstored : storeItems fields fault? before items = .ok after) : part after = part before := by
  induction fields generalizing items before with
  | nil =>
    cases items with
    | nil => rw [eq_of_storeItems_nil hstored]
    | cons => cases hstored
  | cons first fields ih =>
    cases items with
    | nil => rw [eq_of_storeItems_nil hstored]
    | cons node rest =>
      obtain ⟨hfirst, hrest⟩ := List.forall_mem_cons.1 hkeeps
      rw [storeItems, bind_eq_ok] at hstored
      obtain ⟨middle, hmiddle, hstored⟩ := hstored
      rw [ih hrest hstored, hfirst node before middle hmiddle]

/-- The items of an array are those of the fields in order. -/
theorem storeItems_part (hfield : fields[place]? = some field) (hsets : field.Sets part reads)
    (hkeeps : ∀ other ∈ fields.eraseIdx place, other.Keeps part) {items : List Node}
    {fault? : Option Fault} {before after : σ}
    (hstored : storeItems fields fault? before items = .ok after) :
    items[place]?.toList = [] ∧ part after = part before ∨
      ∃ written, items[place]?.toList = [written] ∧ reads written (part after) := by
  induction fields generalizing items before place with
  | nil => cases hfield
  | cons first fields ih =>
    cases items with
    | nil => exact .inl ⟨rfl, by rw [eq_of_storeItems_nil hstored]⟩
    | cons node rest =>
      rw [storeItems, bind_eq_ok] at hstored
      obtain ⟨middle, hmiddle, hstored⟩ := hstored
      cases place with
      | zero =>
        obtain rfl := Option.some.inj hfield
        refine .inr ⟨node, rfl, ?_⟩
        rw [storeItems_keeps hkeeps hstored]
        exact hsets node before middle hmiddle
      | succ place =>
        rw [List.eraseIdx_cons_succ, List.forall_mem_cons] at hkeeps
        rw [← hkeeps.1 node before middle hmiddle]
        exact ih hfield hkeeps.2 hstored

end Field

/-- What a record that was read gives for one of its fields. -/
theorem record_gives {fields : List (Field σ)} {initial value : σ} {node : Node}
    (hread : record fields initial node = .ok value) (place : Nat) (part : σ → α) {field : Field σ}
    {reads : Node → α → Prop} (hdecides : Field.Decides fields place field part reads) :
    node.Gives field.names place reads (part initial) (part value) := by
  cases node with
  | literal | brokenLiteral | number | string | missing => cases hread
  | array items fault? =>
    exact Field.storeItems_part hdecides.at_place hdecides.sets hdecides.keeps hread
  | object members fault? =>
    rw [record, bind_eq_ok] at hread
    obtain ⟨⟨seen, found⟩, hstored, hread⟩ := hread
    obtain ⟨-, -, hread⟩ := bind_eq_ok.1 hread
    split at hread
    case isTrue => cases hread
    case isFalse =>
    obtain rfl := Except.ok.inj hread
    exact (hdecides.storeMembers hstored).imp_right And.right

end Decoder

end EventRelay.Json
