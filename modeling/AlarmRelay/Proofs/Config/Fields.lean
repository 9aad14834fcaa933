import AlarmRelay.Config.Given
import AlarmRelay.Proofs.Toml.Sight

/-!
# Settings, field by field

Each field of a configuration is settled by what the document shows at two places:
at its section and at its name in it.  `settle` does so for one field, and a section
is read by settling its fields one after the other.
-/

set_option autoImplicit false

namespace AlarmRelay

open Toml

theorem Toml.lookup_finishMembers (members : Nodes) (name : String) :
    (Node.finishMembers members).lookup name =
      (members.lookup name).map Node.finish := by
  induction members with
  | nil => rfl
  | cons head rest ih =>
      obtain ⟨key, node⟩ := head
      rw [Node.finishMembers]
      cases same : name == key <;> simp [List.lookup_cons, same, ih]

namespace Config

/-- What a field comes to at a place that shows this. -/
def readLook {α : Type} (read : Value → Option α) (fallback : α) :
    Option Look → Option α
  | none => some fallback
  | some (.sight (.value value)) => read value
  | some _ => none

/-- What a field comes to in a document that shows these things. -/
def settle {α : Type} (members : Nodes) (part : String) (index : Nat)
    (name : String) (read : Value → Option α) (fallback : α) : Option α :=
  match members.look [part] with
  | none | some (.sight .table) =>
      readLook read fallback (members.look [part, name])
  | some (.sight (.value (.array items))) =>
      match items[index]? with
      | none => some fallback
      | some value => read value
  | some (.sight (.value (.moment _))) => some fallback
  | some _ => none

/-- What a field comes to in a document. -/
def fieldAt {α : Type} (document : Members) (part : String) (names : List String)
    (name : String) (read : Value → Option α) (fallback : α) : Option α :=
  match document.lookup part with
  | none => some fallback
  | some value => (fieldsOf names value).bind (field read fallback name)

theorem lookup_zip (names : List String) (items : List Value) (index : Nat)
    (name : String) (single : names.Nodup) (place : names[index]? = some name) :
    (names.zip items).lookup name = items[index]? := by
  induction names generalizing items index with
  | nil => simp at place
  | cons first rest ih =>
      rw [List.nodup_cons] at single
      cases items with
      | nil => rfl
      | cons item others =>
          cases index with
          | zero =>
              simp only [List.getElem?_cons_zero, Option.some.injEq] at place
              simp [place]
          | succ index =>
              rw [List.getElem?_cons_succ] at place
              have apart : (name == first) = false := by
                rw [beq_eq_false_iff_ne]
                rintro rfl
                exact single.1 (List.mem_of_getElem? place)
              simp only [List.zip_cons_cons, List.lookup_cons, apart,
                List.getElem?_cons_succ]
              exact ih others index single.2 place

/-- Neither a table nor an array can be read. -/
structure Plain {α : Type} (read : Value → Option α) : Prop where
  tables : ∀ members, read (.table members) = none
  arrays : ∀ items, read (.array items) = none

theorem plain_natBelow (limit : Nat) : Plain (natBelow limit) :=
  ⟨fun _ => rfl, fun _ => rfl⟩

theorem plain_flag : Plain flag := ⟨fun _ => rfl, fun _ => rfl⟩

section

variable {α : Type} {read : Value → Option α} (plain : Plain read) (fallback : α)

include plain

theorem read_finish (node : Node) :
    read node.finish = readLook read fallback (node.look []) := by
  cases node with
  | closed value =>
      cases value <;> first | rfl | exact plain.tables _
  | table origin inner => exact plain.tables _
  | tables items =>
      rw [Node.finish, plain.arrays, Node.look, if_pos rfl]
      cases items <;> rfl

/-- A field is read where the document shows it. -/
theorem field_look (name : String) (inner : Nodes) :
    field read fallback name (Node.finishMembers inner) =
      readLook read fallback (inner.look [name]) := by
  rw [field, lookup_finishMembers, Nodes.look_cons]
  cases inner.lookup name with
  | none => rfl
  | some node => exact read_finish plain fallback node

theorem field_sight (name : String) (members : Members) :
    field read fallback name members =
      readLook read fallback
        (((Value.table members).sight [name]).map Look.sight) := by
  rw [field, Value.sight]
  cases members.lookup name with
  | none => rfl
  | some value => exact read_finish plain fallback (.closed value)

/-- The document shows all that matters about a field, unless tables with one header
stand for its section; then its first field cannot be read. -/
theorem fieldAt_settle (members : Nodes) (part : String) (names : List String)
    (index : Nat) (name : String) (single : names.Nodup)
    (place : names[index]? = some name)
    (filled : members.look [part] ≠ some .empty)
    (first : index = 0 ∨ members.look [part] ≠ some (.sight .tables)) :
    fieldAt (Node.finishMembers members) part names name read fallback =
      settle members part index name read fallback := by
  rw [fieldAt, lookup_finishMembers, settle]
  have top : members.look [part] = (members.lookup part).bind (Node.look []) :=
    members.look_cons part []
  have below : members.look [part, name] =
      (members.lookup part).bind (Node.look [name]) :=
    members.look_cons part [name]
  cases found : members.lookup part with
  | none =>
      rw [found] at top below
      rw [top, below]
      rfl
  | some node =>
      rw [found, Option.bind_some] at top below
      rw [top] at filled first ⊢
      rw [below]
      cases node with
      | closed value =>
          cases value with
          | table inner => exact field_sight plain fallback name inner
          | array items =>
              simp only [Option.map_some, Node.finish, fieldsOf,
                Option.bind_some, field, lookup_zip names items index name single
                place, Node.look, Value.sight]
              cases items[index]? <;> rfl
          | _ => rfl
      | table origin inner => exact field_look plain fallback name inner
      | tables items =>
          cases items with
          | nil => exact absurd rfl filled
          | cons item rest =>
              rcases first with rfl | apart
              · cases names with
                | nil => cases place
                | cons head others =>
                    cases place
                    simp [Node.finish, Node.finishItems, fieldsOf, field,
                      plain.tables, Node.look]
              · exact absurd rfl apart

end

/-! ## Sections -/

/-- The settings in a document that shows these things. -/
def ofLook (standard : Config) (members : Nodes) : Option Config := do
  let interval ← settle members "hub" 0 "snapshot_interval_ms"
    (natBelow UInt64.size) standard.hub.snapshotIntervalMs.toNat
  let exported ← settle members "metrics" 0 "enabled" flag standard.metrics.enabled
  let port ← settle members "metrics" 1 "port" (natBelow UInt16.size)
    standard.metrics.port.toNat
  let producing ← settle members "producer" 0 "enabled" flag
    standard.producer.enabled
  let pace ← settle members "producer" 1 "event_interval_ms"
    (natBelow UInt64.size) standard.producer.eventIntervalMs.toNat
  let alarms ← settle members "producer" 2 "max_alarms" (natBelow UInt32.size)
    standard.producer.maxAlarms.toNat
  return {
    hub := ⟨UInt64.ofNat interval⟩
    metrics := ⟨exported, UInt16.ofNat port⟩
    producer := ⟨producing, UInt64.ofNat pace, UInt32.ofNat alarms⟩ }

section

variable (document : Members)

theorem hub_fields (standard : HubSection) :
    field (hubSection standard) standard "hub" document = (do
      let interval ← fieldAt document "hub" ["snapshot_interval_ms"]
        "snapshot_interval_ms" (natBelow UInt64.size)
        standard.snapshotIntervalMs.toNat
      return ⟨UInt64.ofNat interval⟩) := by
  unfold field hubSection fieldAt
  cases document.lookup "hub" with
  | none => simp
  | some value =>
      dsimp only
      cases fieldsOf ["snapshot_interval_ms"] value <;> rfl

theorem metrics_fields (standard : MetricsSection) :
    field (metricsSection standard) standard "metrics" document = (do
      let enabled ← fieldAt document "metrics" ["enabled", "port"] "enabled" flag
        standard.enabled
      let port ← fieldAt document "metrics" ["enabled", "port"] "port"
        (natBelow UInt16.size) standard.port.toNat
      return ⟨enabled, UInt16.ofNat port⟩) := by
  unfold field metricsSection fieldAt
  cases document.lookup "metrics" with
  | none => simp
  | some value =>
      dsimp only
      cases fieldsOf ["enabled", "port"] value <;> rfl

theorem producer_fields (standard : ProducerSection) :
    field (producerSection standard) standard "producer" document = (do
      let enabled ← fieldAt document "producer"
        ["enabled", "event_interval_ms", "max_alarms"] "enabled" flag
        standard.enabled
      let pace ← fieldAt document "producer"
        ["enabled", "event_interval_ms", "max_alarms"] "event_interval_ms"
        (natBelow UInt64.size) standard.eventIntervalMs.toNat
      let alarms ← fieldAt document "producer"
        ["enabled", "event_interval_ms", "max_alarms"] "max_alarms"
        (natBelow UInt32.size) standard.maxAlarms.toNat
      return ⟨enabled, UInt64.ofNat pace, UInt32.ofNat alarms⟩) := by
  unfold field producerSection fieldAt
  cases document.lookup "producer" with
  | none => simp
  | some value =>
      dsimp only
      cases fieldsOf ["enabled", "event_interval_ms", "max_alarms"] value <;> rfl

end

theorem settle_tables {α : Type} (members : Nodes) (part : String) (index : Nat)
    (name : String) (read : Value → Option α) (fallback value : α)
    (settled : settle members part index name read fallback = some value) :
    members.look [part] ≠ some (.sight .tables) := by
  intro tables
  simp [settle, tables] at settled

section

variable (members : Nodes) (filled : ∀ place, members.look place ≠ some .empty)

include filled

theorem hub_look (standard : HubSection) :
    field (hubSection standard) standard "hub" (Node.finishMembers members) =
      (settle members "hub" 0 "snapshot_interval_ms" (natBelow UInt64.size)
        standard.snapshotIntervalMs.toNat).bind fun interval =>
          some ⟨UInt64.ofNat interval⟩ := by
  rw [hub_fields, fieldAt_settle (plain_natBelow _) _ members "hub" _ 0 _
    (by decide) rfl (filled _) (Or.inl rfl)]
  rfl

/-- Later fields of a section are settled once its first one is. -/
theorem metrics_look (standard : MetricsSection) :
    field (metricsSection standard) standard "metrics"
        (Node.finishMembers members) =
      (settle members "metrics" 0 "enabled" flag standard.enabled).bind
        fun enabled =>
      (settle members "metrics" 1 "port" (natBelow UInt16.size)
        standard.port.toNat).bind fun port =>
          some ⟨enabled, UInt16.ofNat port⟩ := by
  rw [metrics_fields, fieldAt_settle plain_flag _ members "metrics" _ 0 _
    (by decide) rfl (filled _) (Or.inl rfl)]
  apply Option.bind_congr
  intro enabled settled
  rw [fieldAt_settle (plain_natBelow _) _ members "metrics" _ 1 _ (by decide) rfl
    (filled _) (Or.inr (settle_tables members _ _ _ _ _ _ settled))]
  rfl

theorem producer_look (standard : ProducerSection) :
    field (producerSection standard) standard "producer"
        (Node.finishMembers members) =
      (settle members "producer" 0 "enabled" flag standard.enabled).bind
        fun enabled =>
      (settle members "producer" 1 "event_interval_ms" (natBelow UInt64.size)
        standard.eventIntervalMs.toNat).bind fun pace =>
      (settle members "producer" 2 "max_alarms" (natBelow UInt32.size)
        standard.maxAlarms.toNat).bind fun alarms =>
          some ⟨enabled, UInt64.ofNat pace, UInt32.ofNat alarms⟩ := by
  rw [producer_fields, fieldAt_settle plain_flag _ members "producer" _ 0 _
    (by decide) rfl (filled _) (Or.inl rfl)]
  apply Option.bind_congr
  intro enabled settled
  have untabled := settle_tables members _ _ _ _ _ _ settled
  rw [fieldAt_settle (plain_natBelow _) _ members "producer" _ 1 _ (by decide) rfl
      (filled _) (Or.inr untabled),
    fieldAt_settle (plain_natBelow _) _ members "producer" _ 2 _ (by decide) rfl
      (filled _) (Or.inr untabled)]
  rfl

/-- A document gives the settings that it shows. -/
theorem ofDocument_look (standard : Config) :
    ofDocument standard (Node.finishMembers members) =
      ofLook standard members := by
  simp only [ofDocument, hub_look members filled, metrics_look members filled,
    producer_look members filled, ofLook, Option.bind_eq_bind, Option.bind_assoc,
    Option.bind_some, Option.pure_def]

end

end Config
end AlarmRelay
