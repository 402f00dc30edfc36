import SchemaGrammar.Proofs.Collection.KeyMap
import SchemaGrammar.Proofs.Plugin.Call
import Mathlib.Data.List.Induction

/-!
# The history of a registry

What stands on the shelves of a registry is decided by the calls that were made and by which
of them succeeded.  A plugin stands there if its latest successful registration has not been
followed by a successful removal; it is switched as the latest switch since then says, and has
the default options of that registration.

**Results.**
* `Registry.perform`: a call on a registry that is changed in place; `Registry.perform_eq`: it
  does what the operations on registries say.
* `Registry.Registered`: what the events of a history tell about a name.
* `Registry.agrees_after`: shelves and histories agree after every run.
* `Registry.state_of_history`: look-ups, listings and failures in terms of the history.
-/

namespace SchemaGrammar

namespace Registry

/-- A call that changes a registry. -/
inductive Call
  | register (kind : PluginKind) (id : String) (plugin : Plugin kind) (defaults : OptionMap)
  | unregister (kind : PluginKind) (id : String)
  | setEnabled (kind : PluginKind) (id : String) (enabled : Bool)

namespace Call

def kind : Call → PluginKind
  | register kind _ _ _ | unregister kind _ | setEnabled kind _ _ => kind

def id : Call → String
  | register _ id _ _ | unregister _ id | setEnabled _ id _ => id

end Call

section Calls

variable (r : Registry)

/-- The registry that a call makes of another one, or the error that it returns. -/
def answer : Call → Except PluginError Registry
  | .register kind id plugin defaults => r.register kind id plugin defaults
  | .unregister kind id => r.unregister kind id
  | .setEnabled kind id enabled => r.setEnabled kind id enabled

/-- A call on a registry that is changed in place: the registry afterwards, and the error if there
is one.  A removal takes the entry out before it is known whether there was one. -/
def perform : Call → Registry × Option PluginError
  | .register kind id plugin defaults =>
      if (r.shelf kind).contains id then (r, some (.duplicateRegistration kind id))
      else (r.withShelf kind ((r.shelf kind).insert id ⟨plugin, true, defaults⟩), none)
  | .unregister kind id =>
      (r.withShelf kind ((r.shelf kind).erase id),
        if (r.shelf kind).contains id then none else some (.notFound kind id))
  | .setEnabled kind id enabled =>
      (r.withShelf kind ((r.shelf kind).modify id fun e => { e with enabled }),
        if (r.shelf kind).contains id then none else some (.notFound kind id))

@[simp] theorem withShelf_shelf
    (kind : PluginKind) :
    r.withShelf kind (r.shelf kind) = r := by
  cases kind <;> rfl

/-- In place or not, a call does the same, and one that fails does nothing. -/
theorem perform_eq
    (call : Call) :
    r.perform call = match r.answer call with
      | .ok next => (next, none)
      | .error e => (r, some e) := by
  cases call with
  | register kind id plugin defaults =>
      simp only [perform, answer, register]
      split <;> rfl
  | unregister kind id =>
      simp only [perform, answer, unregister]
      cases h : (r.shelf kind).contains id with
      | true => rfl
      | false => simp [KeyMap.erase_of_contains_eq_false h]
  | setEnabled kind id enabled =>
      simp only [perform, answer, setEnabled]
      cases h : (r.shelf kind).contains id with
      | true => rfl
      | false => simp [KeyMap.modify_of_contains_eq_false h]

/-- A call that fails leaves every shelf as it was. -/
theorem perform_eq_self
    {call : Call}
    {e : PluginError}
    (h : (r.perform call).2 = some e) :
    (r.perform call).1 = r := by
  rw [perform_eq] at h ⊢
  cases hanswer : r.answer call with
  | ok next =>
      rw [hanswer] at h
      cases h
  | error e => rfl

/-- A call that names one kind leaves the other shelves as they were. -/
theorem shelf_perform_of_ne
    {call : Call}
    {kind : PluginKind}
    (h : call.kind ≠ kind) :
    (r.perform call).1.shelf kind = r.shelf kind := by
  cases call with
  | register kind' id plugin defaults =>
      rw [perform]
      split
      · rfl
      · exact shelf_withShelf_of_ne r (Ne.symm h) _
  | unregister kind' id => exact shelf_withShelf_of_ne r (Ne.symm h) _
  | setEnabled kind' id enabled => exact shelf_withShelf_of_ne r (Ne.symm h) _

/-- A call about one name leaves what stands under the other names. -/
theorem get?_shelf_perform_of_ne
    (call : Call)
    {kind : PluginKind}
    {id : String}
    (h : ¬ (call.kind = kind ∧ call.id = id)) :
    ((r.perform call).1.shelf kind).get? id = (r.shelf kind).get? id := by
  by_cases hkind : call.kind = kind
  · subst hkind
    have hid : ¬ id = call.id := fun heq => h ⟨rfl, heq.symm⟩
    cases call with
    | register kind' id' plugin defaults =>
        rw [perform]
        split
        · rfl
        · rw [Call.kind, shelf_withShelf_self, KeyMap.get?_insert]
          exact if_neg hid
    | unregister kind' id' =>
        rw [perform, Call.kind, shelf_withShelf_self, KeyMap.get?_erase]
        exact if_neg hid
    | setEnabled kind' id' enabled =>
        rw [perform, Call.kind, shelf_withShelf_self, KeyMap.get?_modify]
        exact if_neg hid
  · rw [shelf_perform_of_ne r hkind]

end Calls

section Events

/-- A call that was made, and the error that it returned if it failed. -/
structure Event where
  call : Call
  error : Option PluginError

/-- The registry after some calls, whether they succeed or not. -/
def after (r : Registry) (calls : List Call) : Registry :=
  calls.foldl (fun r call => (r.perform call).1) r

/-- What happens while some calls are made. -/
def events : Registry → List Call → List Event
  | _, [] => []
  | r, call :: calls => ⟨call, (r.perform call).2⟩ :: events (r.perform call).1 calls

theorem after_concat
    (r : Registry)
    (calls : List Call)
    (call : Call) :
    r.after (calls ++ [call]) = ((r.after calls).perform call).1 := by
  rw [after, List.foldl_append]
  rfl

/-- A further call adds one event. -/
theorem events_concat
    (r : Registry)
    (calls : List Call)
    (call : Call) :
    r.events (calls ++ [call]) =
      r.events calls ++ [⟨call, ((r.after calls).perform call).2⟩] := by
  induction calls generalizing r with
  | nil => rfl
  | cons first calls ih => exact congrArg _ (ih _)

variable (kind : PluginKind) (id : String)

def Event.Registers (event : Event) : Prop :=
  ∃ plugin defaults, event = ⟨.register kind id plugin defaults, none⟩

def Event.Removes (event : Event) : Prop := event = ⟨.unregister kind id, none⟩

/-- The switch that a call sets on a plugin. -/
def Call.switch? : Call → Option Bool
  | .setEnabled kind' id' enabled => if kind' = kind ∧ id' = id then some enabled else none
  | _ => none

/-- The latest switch that was set on a plugin; a plugin is switched on when it is registered. -/
def latestSwitch (since : List Event) : Bool :=
  (since.filterMap (·.call.switch? kind id)).getLast?.getD true

variable {kind}

/-- The history tells that a plugin stands under a name: it was registered there, since then
nothing was registered there and it was not removed, and the latest switch is as given. -/
def Registered (history : List Event) (e : Entry kind) : Prop :=
  ∃ before since,
    history = before ++ ⟨.register kind id e.plugin e.defaults, none⟩ :: since ∧
      (∀ event ∈ since, ¬ event.Registers kind id) ∧
      (∀ event ∈ since, ¬ event.Removes kind id) ∧
      latestSwitch kind id since = e.enabled

end Events

section Latest

variable {kind : PluginKind} {id : String} {history : List Event} {event : Event} {e : Entry kind}

/-- The latest switch is that of the last event, if it sets any. -/
theorem latestSwitch_concat
    (since : List Event)
    (event : Event) :
    latestSwitch kind id (since ++ [event]) =
      (event.call.switch? kind id).getD (latestSwitch kind id since) := by
  rw [latestSwitch, List.filterMap_append]
  cases h : event.call.switch? kind id with
  | none => simp [h, latestSwitch]
  | some enabled => simp [h]

theorem not_registered_nil :
    ¬ Registered id [] e := by
  rintro ⟨before, since, h, -⟩
  simp at h

/-- What the latest event changes: it registers the plugin, or leaves it registered and perhaps
switches it. -/
theorem registered_concat_iff :
    Registered id (history ++ [event]) e ↔
      event = ⟨.register kind id e.plugin e.defaults, none⟩ ∧ e.enabled = true ∨
        ¬ event.Registers kind id ∧ ¬ event.Removes kind id ∧
          ∃ enabled, Registered id history { e with enabled } ∧
            (event.call.switch? kind id).getD enabled = e.enabled := by
  constructor
  · rintro ⟨before, since, hsplit, hregisters, hremoves, hswitch⟩
    induction since using List.reverseRecOn with
    | nil =>
        obtain ⟨-, heq⟩ := List.append_inj' hsplit rfl
        exact .inl ⟨List.singleton_inj.mp heq, hswitch.symm⟩
    | append_singleton since last =>
        rw [← List.cons_append, ← List.append_assoc] at hsplit
        obtain ⟨hhistory, heq⟩ := List.append_inj' hsplit rfl
        obtain rfl := List.singleton_inj.mp heq
        rw [List.forall_mem_append] at hregisters hremoves
        rw [latestSwitch_concat] at hswitch
        exact .inr ⟨hregisters.2 _ List.mem_cons_self, hremoves.2 _ List.mem_cons_self,
          latestSwitch kind id since,
          ⟨before, since, hhistory, hregisters.1, hremoves.1, rfl⟩, hswitch⟩
  · rintro (⟨rfl, henabled⟩ | ⟨hregisters, hremoves, enabled,
      ⟨before, since, rfl, hbefore, hbefore', hswitch⟩, henabled⟩)
    · exact ⟨history, [], rfl, List.forall_mem_nil _, List.forall_mem_nil _, henabled.symm⟩
    · refine ⟨before, since ++ [event], by simp, ?_, ?_, ?_⟩
      · exact List.forall_mem_append.mpr ⟨hbefore, List.forall_mem_singleton.mpr hregisters⟩
      · exact List.forall_mem_append.mpr ⟨hbefore', List.forall_mem_singleton.mpr hremoves⟩
      · rw [latestSwitch_concat, hswitch, henabled]

/-- An event that registers nothing, removes nothing and switches nothing. -/
theorem registered_concat_iff_of_silent
    (hregisters : ¬ event.Registers kind id)
    (hremoves : ¬ event.Removes kind id)
    (hswitch : event.call.switch? kind id = none) :
    Registered id (history ++ [event]) e ↔ Registered id history e := by
  rw [registered_concat_iff, hswitch]
  constructor
  · rintro (⟨rfl, -⟩ | ⟨-, -, enabled, hregistered, henabled⟩)
    · exact absurd ⟨_, _, rfl⟩ hregisters
    · obtain rfl : enabled = e.enabled := henabled
      exact hregistered
  · intro hregistered
    exact .inr ⟨hregisters, hremoves, e.enabled, hregistered, rfl⟩

/-- An event about another name changes nothing. -/
theorem registered_concat_iff_of_ne
    (h : ¬ (event.call.kind = kind ∧ event.call.id = id)) :
    Registered id (history ++ [event]) e ↔ Registered id history e := by
  refine registered_concat_iff_of_silent ?_ ?_ ?_
  · rintro ⟨plugin, defaults, rfl⟩
    exact h ⟨rfl, rfl⟩
  · rintro rfl
    exact h ⟨rfl, rfl⟩
  · obtain ⟨call, error⟩ := event
    cases call with
    | register | unregister => rfl
    | setEnabled kind' id' enabled => exact if_neg h

/-- A call that returned an error and sets no switch changes nothing. -/
theorem registered_concat_iff_of_error
    {error : PluginError}
    (h : event.error = some error)
    (hswitch : event.call.switch? kind id = none) :
    Registered id (history ++ [event]) e ↔ Registered id history e := by
  refine registered_concat_iff_of_silent ?_ ?_ hswitch
  · rintro ⟨plugin, defaults, rfl⟩
    cases h
  · rintro rfl
    cases h

end Latest

section Agreement

/-- The shelves hold what the history tells. -/
def Agrees (r : Registry) (history : List Event) : Prop :=
  ∀ (kind : PluginKind) (id : String) (e : Entry kind),
    (r.shelf kind).get? id = some e ↔ Registered id history e

variable {r : Registry} {history : List Event}

theorem agrees_empty :
    empty.Agrees [] := by
  intro kind id e
  have hnone : (empty.shelf kind).get? id = none := by cases kind <;> rfl
  rw [hnone]
  exact iff_of_false (by simp) not_registered_nil

section Steps

variable
  (h : r.Agrees history)
  {kind : PluginKind}
  (id : String)
  {e : Entry kind}

include h

/-- A registration shows on the shelf as it does in the history. -/
theorem Agrees.register
    (plugin : Plugin kind)
    (defaults : OptionMap) :
    ((r.perform (.register kind id plugin defaults)).1.shelf kind).get? id = some e ↔
      Registered id
        (history ++ [⟨.register kind id plugin defaults,
          (r.perform (.register kind id plugin defaults)).2⟩]) e := by
  rw [perform]
  split
  · rw [registered_concat_iff_of_error rfl rfl]
    exact h kind id e
  · rw [shelf_withShelf_self, KeyMap.get?_insert, if_pos rfl, registered_concat_iff]
    constructor
    · intro heq
      cases heq
      exact .inl ⟨rfl, rfl⟩
    · rintro (⟨heq, henabled⟩ | ⟨hregisters, -⟩)
      · cases heq
        rw [← henabled]
      · exact absurd ⟨plugin, defaults, rfl⟩ hregisters

/-- A removal shows on the shelf as it does in the history. -/
theorem Agrees.unregister :
    ((r.perform (.unregister kind id)).1.shelf kind).get? id = some e ↔
      Registered id
        (history ++ [⟨.unregister kind id, (r.perform (.unregister kind id)).2⟩]) e := by
  rw [perform, shelf_withShelf_self, KeyMap.get?_erase, if_pos rfl]
  refine iff_of_false (by simp) ?_
  cases hcontains : (r.shelf kind).contains id with
  | true =>
      rw [registered_concat_iff]
      rintro (⟨heq, -⟩ | ⟨-, hremoves, -⟩)
      · cases heq
      · exact hremoves rfl
  | false =>
      rw [registered_concat_iff_of_error rfl rfl, ← h kind id e,
        KeyMap.contains_eq_false_iff.mp hcontains]
      simp

/-- A switch shows on the shelf as it does in the history. -/
theorem Agrees.setEnabled
    (enabled : Bool) :
    ((r.perform (.setEnabled kind id enabled)).1.shelf kind).get? id = some e ↔
      Registered id
        (history ++ [⟨.setEnabled kind id enabled,
          (r.perform (.setEnabled kind id enabled)).2⟩]) e := by
  rw [perform, shelf_withShelf_self, KeyMap.get?_modify, if_pos rfl, Option.map_eq_some_iff,
    registered_concat_iff]
  constructor
  · rintro ⟨old, hold, rfl⟩
    refine .inr ⟨?_, ?_, old.enabled, (h kind id old).mp hold, ?_⟩
    · rintro ⟨_, _, heq⟩
      cases heq
    · intro heq
      cases heq
    · simp [Call.switch?]
  · rintro (⟨heq, -⟩ | ⟨-, -, before, hbefore, hswitch⟩)
    · cases heq
    · refine ⟨_, (h kind id _).mpr hbefore, ?_⟩
      obtain rfl : enabled = e.enabled := by simpa [Call.switch?] using hswitch
      rfl

/-- A call keeps shelves and history in agreement. -/
theorem Agrees.perform
    (call : Call) :
    (r.perform call).1.Agrees (history ++ [⟨call, (r.perform call).2⟩]) := by
  intro kind id e
  by_cases hsame : call.kind = kind ∧ call.id = id
  · obtain ⟨rfl, rfl⟩ := hsame
    cases call with
    | register kind id plugin defaults => exact h.register id plugin defaults
    | unregister kind id => exact h.unregister id
    | setEnabled kind id enabled => exact h.setEnabled id enabled
  · rw [registered_concat_iff_of_ne hsame, get?_shelf_perform_of_ne r call hsame]
    exact h kind id e

end Steps

/-- After any calls, the shelves hold what the history tells. -/
theorem agrees_after
    (calls : List Call) :
    (empty.after calls).Agrees (empty.events calls) := by
  induction calls using List.reverseRecOn with
  | nil => exact agrees_empty
  | append_singleton calls call ih =>
      rw [after_concat, events_concat]
      exact ih.perform call

end Agreement

section Views

variable {r : Registry} {history : List Event} {kind : PluginKind}

/-- A look-up finds a plugin that stands under the name and is switched on. -/
theorem get?_eq_some_iff
    {id : String}
    {plugin : Plugin kind} :
    r.get? kind id = some plugin ↔
      ∃ defaults, (r.shelf kind).get? id = some ⟨plugin, true, defaults⟩ := by
  rw [get?, Option.map_eq_some_iff]
  simp only [entry?_eq_some_iff]
  constructor
  · rintro ⟨⟨_, _, defaults⟩, ⟨he, rfl⟩, rfl⟩
    exact ⟨defaults, he⟩
  · rintro ⟨defaults, he⟩
    exact ⟨_, ⟨he, rfl⟩, rfl⟩

/-- Plugins are listed by name. -/
theorem pairwise_list :
    (r.list kind).Pairwise fun a b => a.id < b.id :=
  List.pairwise_map.mpr (r.shelf kind).sorted

/-- The list tells everything on the shelf, and nothing else. -/
theorem mem_list_iff
    {info : PluginInfo} :
    info ∈ r.list kind ↔
      ∃ id e, (r.shelf kind).get? id = some e ∧
        info = ⟨id, kind, e.enabled, e.plugin.metadata, e.plugin.format, e.defaults⟩ := by
  rw [list, List.mem_map]
  constructor
  · rintro ⟨⟨id, e⟩, hmem, rfl⟩
    exact ⟨id, e, KeyMap.get?_eq_some_iff.mpr hmem, rfl⟩
  · rintro ⟨id, e, he, rfl⟩
    exact ⟨(id, e), KeyMap.get?_eq_some_iff.mp he, rfl⟩

/-- A registration leaves what is there. -/
theorem get?_shelf_register
    {id id' : String}
    {kind' : PluginKind}
    {e : Entry kind}
    {plugin : Plugin kind'}
    {defaults : OptionMap}
    {next : Registry}
    (he : (r.shelf kind).get? id = some e)
    (h : r.register kind' id' plugin defaults = .ok next) :
    (next.shelf kind).get? id = some e := by
  have hperform := r.perform_eq (.register kind' id' plugin defaults)
  rw [answer, h] at hperform
  by_cases hsame : kind' = kind ∧ id' = id
  · obtain ⟨rfl, rfl⟩ := hsame
    have hcontains : (r.shelf kind').contains id' = true := by rw [KeyMap.contains, he]; rfl
    rw [register, if_pos hcontains] at h
    cases h
  · have hget := get?_shelf_perform_of_ne r (.register kind' id' plugin defaults) hsame
    rwa [hperform, he] at hget

/-- So do several of them, also if one of them fails. -/
theorem get?_shelf_registerAll
    {id : String}
    {e : Entry kind}
    (ps : List NamedPlugin)
    (he : (r.shelf kind).get? id = some e) :
    ((r.registerAll ps).1.shelf kind).get? id = some e := by
  induction ps generalizing r with
  | nil => exact he
  | cons p ps ih =>
      rw [registerAll]
      split
      · next next hnext => exact ih (get?_shelf_register he hnext)
      · exact he

end Views

/-- **State and history.**  After any calls, a call does what the operations say and nothing if it
fails; it leaves the other kinds alone; look-ups and listings show what the history tells; and the
built-in plugins may be registered without harm to what is there. -/
theorem state_of_history
    (calls : List Call) :
    (∀ call, (empty.after calls).perform call =
      match (empty.after calls).answer call with
      | .ok next => (next, none)
      | .error e => (empty.after calls, some e)) ∧
    (∀ call e, ((empty.after calls).perform call).2 = some e →
      ((empty.after calls).perform call).1 = empty.after calls) ∧
    (∀ call kind, call.kind ≠ kind →
      ((empty.after calls).perform call).1.shelf kind = (empty.after calls).shelf kind) ∧
    (∀ kind id plugin, (empty.after calls).get? kind id = some plugin ↔
      ∃ defaults, Registered id (empty.events calls) (⟨plugin, true, defaults⟩ : Entry kind)) ∧
    (∀ kind, ((empty.after calls).list kind).Pairwise fun a b => a.id < b.id) ∧
    (∀ kind info, info ∈ (empty.after calls).list kind ↔
      ∃ id, ∃ e : Entry kind, Registered id (empty.events calls) e ∧
        info = ⟨id, kind, e.enabled, e.plugin.metadata, e.plugin.format, e.defaults⟩) ∧
    (∀ kind id e, ((empty.after calls).shelf kind).get? id = some e →
      (((empty.after calls).registerAll BuiltIn.all).1.shelf kind).get? id = some e) := by
  have hagrees := agrees_after calls
  refine ⟨fun call => perform_eq _ call, fun call e h => perform_eq_self _ h,
    fun call kind h => shelf_perform_of_ne _ h, fun kind id plugin => ?_,
    fun kind => pairwise_list, fun kind info => ?_,
    fun kind id e he => get?_shelf_registerAll BuiltIn.all he⟩
  · rw [get?_eq_some_iff]
    exact exists_congr fun defaults => hagrees kind id _
  · rw [mem_list_iff]
    exact exists_congr fun id => exists_congr fun e => and_congr_left' (hagrees kind id e)

example (defaults : OptionMap) :
    ((empty.after
      [.register .generator "types" BuiltIn.typeLister defaults,
        .setEnabled .generator "types" false,
        .unregister .generator "types",
        .register .generator "types" BuiltIn.typeLister .empty]).shelf .generator).get? "types" =
      some ⟨BuiltIn.typeLister, true, .empty⟩ :=
  rfl

end Registry

end SchemaGrammar
