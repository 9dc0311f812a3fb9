import EventRelay.Proofs.Json.Record
import EventRelay.Rule.Reading

namespace EventRelay

open Json Decoder Field

/-- A notification, as it is spelled. -/
structure WrittenNotify.IsSpelled (node : Node) (notify : WrittenNotify) : Prop where
  target : node.Gives ["target"] 0 (text · = .ok ·) "" notify.target
  channel : node.Gives ["channel"] 1 (text · = .ok ·) "" notify.channel
  template : node.Gives ["template"] 2 (text · = .ok ·) "" notify.template
  agent : node.Gives ["agent_id"] 3 (Node.Optionally (text · = .ok ·)) none notify.agent?

theorem WrittenNotify.isSpelled_of_decoder {node : Node} {notify : WrittenNotify}
    (hread : WrittenNotify.decoder node = .ok notify) : notify.IsSpelled node where
  target := record_gives hread 0 (·.target)
    ⟨rfl, sets_withDefault fun _ _ => rfl, by simp [keeps_withDefault], by decide⟩
  channel := record_gives hread 1 (·.channel)
    ⟨rfl, sets_withDefault fun _ _ => rfl, by simp [keeps_withDefault], by decide⟩
  template := record_gives hread 2 (·.template)
    ⟨rfl, sets_withDefault fun _ _ => rfl, by simp [keeps_withDefault], by decide⟩
  agent := by
    have hgives := record_gives hread 3 (·.agent?)
      ⟨rfl, sets_withDefault fun _ _ => rfl, by simp [keeps_withDefault], by decide⟩
    exact hgives.imp fun _ => Node.optionally_decoder

theorem WrittenNotify.IsSpelled.unique {node : Node} {notify notify' : WrittenNotify}
    (hspelled : notify.IsSpelled node) (hspelled' : notify'.IsSpelled node) : notify = notify' := by
  have htarget := hspelled.target.unique hspelled'.target fun _ => eq_of_eq_ok
  have hchannel := hspelled.channel.unique hspelled'.channel fun _ => eq_of_eq_ok
  have htemplate := hspelled.template.unique hspelled'.template fun _ => eq_of_eq_ok
  have hagent := hspelled.agent.unique hspelled'.agent fun _ => Node.Optionally.unique_of_decoder
  cases notify
  cases notify'
  congr

/-- An action, as it is spelled. Three of its fields have two names. -/
structure WrittenAction.IsSpelled (node : Node) (action : WrittenAction) : Prop where
  template : node.Gives ["template", "message_template"] 0 (text · = .ok ·) "" action.template
  timeout : node.Gives ["timeout_secs", "timeout"] 1 (Node.Optionally (uint32 · = .ok ·)) none
    action.timeout?
  delay : node.Gives ["delay_secs", "delay"] 2 (Node.Optionally (uint32 · = .ok ·)) none action.delay?
  agent : node.Gives ["agent_id"] 3 (Node.Optionally (text · = .ok ·)) none action.agent?
  notify : node.Gives ["notify"] 4 (Node.Optionally fun node notify => notify.IsSpelled node) none
    action.notify?

theorem WrittenAction.isSpelled_of_decoder {node : Node} {action : WrittenAction}
    (hread : WrittenAction.decoder node = .ok action) : action.IsSpelled node where
  template := record_gives hread 0 (·.template)
    ⟨rfl, sets_withDefault fun _ _ => rfl, by simp [keeps_withDefault], by decide⟩
  timeout := by
    have hgives := record_gives hread 1 (·.timeout?)
      ⟨rfl, sets_withDefault fun _ _ => rfl, by simp [keeps_withDefault], by decide⟩
    exact hgives.imp fun _ => Node.optionally_decoder
  delay := by
    have hgives := record_gives hread 2 (·.delay?)
      ⟨rfl, sets_withDefault fun _ _ => rfl, by simp [keeps_withDefault], by decide⟩
    exact hgives.imp fun _ => Node.optionally_decoder
  agent := by
    have hgives := record_gives hread 3 (·.agent?)
      ⟨rfl, sets_withDefault fun _ _ => rfl, by simp [keeps_withDefault], by decide⟩
    exact hgives.imp fun _ => Node.optionally_decoder
  notify := by
    have hgives := record_gives hread 4 (·.notify?)
      ⟨rfl, sets_withDefault fun _ _ => rfl, by simp [keeps_withDefault], by decide⟩
    exact hgives.imp fun node hnotify =>
      Node.optionally_of_decoder (fun _ => WrittenNotify.isSpelled_of_decoder) hnotify

/-- A text spells one action only. -/
theorem WrittenAction.IsSpelled.unique {node : Node} {action action' : WrittenAction}
    (hspelled : action.IsSpelled node) (hspelled' : action'.IsSpelled node) : action = action' := by
  have htemplate := hspelled.template.unique hspelled'.template fun _ => eq_of_eq_ok
  have htimeout := hspelled.timeout.unique hspelled'.timeout fun _ => Node.Optionally.unique_of_decoder
  have hdelay := hspelled.delay.unique hspelled'.delay fun _ => Node.Optionally.unique_of_decoder
  have hagent := hspelled.agent.unique hspelled'.agent fun _ => Node.Optionally.unique_of_decoder
  have hnotify := hspelled.notify.unique hspelled'.notify fun _ hvalue hvalue' =>
    hvalue.unique hvalue' fun _ _ => WrittenNotify.IsSpelled.unique
  cases action
  cases action'
  congr

end EventRelay
