import Mathlib.Data.List.Basic
import Relabel.Proofs.Renaming.Value

/-!
# The log of a renaming

The names of a client have an order, which is that of the walk of a renaming.  A renaming reports
a change exactly where the name in the renamed tree differs from the given one, in this order, and
tells both names.  So the reported changes, replayed on the names of the given tree, lead to the
names of the renamed one, and none is left over.
-/

namespace Relabel

/-! ## Names in their order -/

inductive Visit where
  | model (kind : ExportKind) (name : String)
  | member (name : String)
  deriving DecidableEq, Repr

namespace Model

mutual

/-- The own name, then those of the link, the members, the enumerations and the properties. -/
def visits : Model → List Visit
  | { name, kind, link, members, enums, properties, .. } =>
      .model kind name :: (visitsOfLink link ++ members.map (fun member => .member member.name) ++
        visitsOfList enums ++ visitsOfList properties)

def visitsOfLink : Option Model → List Visit
  | none => []
  | some model => visits model

def visitsOfList : List Model → List Visit
  | [] => []
  | model :: rest => visits model ++ visitsOfList rest

end

theorem visitsOfLink_eq (link : Option Model) :
    visitsOfLink link = link.toList.flatMap visits := by
  cases link <;> simp [visitsOfLink]

theorem visitsOfList_eq (models : List Model) : visitsOfList models = models.flatMap visits := by
  induction models with
  | nil => rfl
  | cons model models ih => rw [visitsOfList, ih, List.flatMap_cons]

theorem visits_eq (model : Model) :
    model.visits =
      .model model.kind model.name ::
        (model.link.toList.flatMap visits ++
          model.members.map (fun member => .member member.name) ++
          model.enums.flatMap visits ++ model.properties.flatMap visits) := by
  cases model
  rw [visits, visitsOfLink_eq, visitsOfList_eq, visitsOfList_eq]

end Model

def Operation.visits (operation : Operation) : List Visit :=
  operation.results.flatMap fun result => result.model.visits

def Service.visits (service : Service) : List Visit :=
  service.operations.flatMap Operation.visits

def Client.visits (client : Client) : List Visit :=
  client.models.flatMap Model.visits ++ client.services.flatMap Service.visits

/-! ## Changes from some names to others -/

def Event.Entry.ofChange (message old new : String) : Entry :=
  ⟨"TRACE", message, [("from", .text old), ("to", .text new)]⟩

/-- What the log shows of a name that may have become another one. -/
def Visit.change : Visit → Visit → List Event.Entry
  | model _ old, model _ new => if new = old then [] else [.ofChange "renamed model" old new]
  | member old, member new => if new = old then [] else [.ofChange "renamed enum member" old new]
  | _, _ => []

def changes (old new : List Visit) : List Event.Entry :=
  (List.zipWith Visit.change old new).flatten

namespace Visit

def rename (rules : Rules) : Visit → Visit
  | model kind name => model kind (Model.newName rules kind name)
  | member name => member (rules.member name)

def log (rules : Rules) : Visit → List Event
  | model kind name =>
      (Traced.reportChange .renamedModel name (Model.newName rules kind name)).events
  | member name => (Traced.reportChange .renamedMember name (rules.member name)).events

end Visit

variable (rules : Rules)

theorem Visit.map_entry_log (visit : Visit) :
    (visit.log rules).map Event.entry = visit.change (visit.rename rules) := by
  cases visit <;>
    · simp only [log, Traced.reportChange, Traced.events_report, rename, change]
      split <;> rfl

theorem changes_map_rename (visits : List Visit) :
    changes visits (visits.map (Visit.rename rules)) =
      (visits.flatMap (Visit.log rules)).map Event.entry := by
  rw [changes, List.zipWith_map_right, List.zipWith_self, List.map_flatMap, List.flatMap_def]
  simp only [Visit.map_entry_log]

/-! ## What a renaming makes of the names -/

theorem Model.visits_rename (model : Model) :
    (model.rename rules).value.visits = model.visits.map (Visit.rename rules) := by
  induction model using Model.induction_on_held with
  | step model ih =>
      have hheld : ∀ models : List Model, (∀ inner ∈ models, inner ∈ model.held) →
          models.flatMap (fun inner => (inner.rename rules).value.visits) =
            (models.flatMap visits).map (Visit.rename rules) := by
        intro models hmodels
        rw [List.map_flatMap]
        exact List.flatMap_congr fun inner hinner => ih inner (hmodels inner hinner)
      have hlink := hheld model.link.toList fun inner h => by simp_all [held]
      have henums := hheld model.enums fun inner h => by simp [held, h]
      have hproperties := hheld model.properties fun inner h => by simp [held, h]
      rw [value_rename, visits_eq, visits_eq model]
      simp only [List.map_cons, List.map_append, ← hlink, ← henums, ← hproperties,
        Option.toList_map, List.flatMap_map, List.map_map]
      rfl

theorem Operation.visits_rename (operation : Operation) :
    (operation.rename rules).value.visits = operation.visits.map (Visit.rename rules) := by
  simp [visits, value_rename, Response.value_rename, List.flatMap_map, List.map_flatMap,
    Model.visits_rename]

theorem Service.visits_rename (service : Service) :
    (service.rename rules).value.visits = service.visits.map (Visit.rename rules) := by
  simp [visits, value_rename, List.flatMap_map, List.map_flatMap, Operation.visits_rename]

theorem Client.visits_rename (client : Client) :
    (client.rename rules).value.visits = client.visits.map (Visit.rename rules) := by
  simp [visits, value_rename, List.flatMap_map, List.map_flatMap, Model.visits_rename,
    Service.visits_rename]

/-! ## What a renaming reports -/

@[simp] theorem Traced.events_each {α β : Type} (f : α → Traced β) (items : List α) :
    (Traced.each f items).events = items.flatMap fun item => (f item).events := by
  induction items with
  | nil => rfl
  | cons item items ih => simp [Traced.each, ih]

theorem EnumMember.events_rename (member : EnumMember) :
    (member.rename rules).events = Visit.log rules (.member member.name) := by
  simp [rename, Visit.log]

namespace Model

theorem events_renameLink (link : Option Model) :
    (renameLink rules link).events =
      link.toList.flatMap fun model => (model.rename rules).events := by
  cases link <;> simp [renameLink]

theorem events_renameList (models : List Model) :
    (renameList rules models).events = models.flatMap fun model => (model.rename rules).events := by
  induction models with
  | nil => rfl
  | cons model models ih => simp [renameList, ih]

theorem events_rename (model : Model) :
    (model.rename rules).events = model.visits.flatMap (Visit.log rules) := by
  induction model using Model.induction_on_held with
  | step model ih =>
      have hheld : ∀ models : List Model, (∀ inner ∈ models, inner ∈ model.held) →
          models.flatMap (fun inner => (inner.rename rules).events) =
            (models.flatMap visits).flatMap (Visit.log rules) := by
        intro models hmodels
        rw [List.flatMap_assoc]
        exact List.flatMap_congr fun inner hinner => ih inner (hmodels inner hinner)
      have hlink := hheld model.link.toList fun inner h => by simp_all [held]
      have henums := hheld model.enums fun inner h => by simp [held, h]
      have hproperties := hheld model.properties fun inner h => by simp [held, h]
      rw [visits_eq]
      cases model
      simp only [List.flatMap_cons, List.flatMap_append, ← hlink, ← henums, ← hproperties,
        rename, Traced.events_bind, events_renameLink, events_renameList, Traced.events_each,
        EnumMember.events_rename, Traced.events_pure, List.append_nil, List.flatMap_map,
        List.append_assoc]
      rfl

end Model

theorem Operation.events_rename (operation : Operation) :
    (operation.rename rules).events = operation.visits.flatMap (Visit.log rules) := by
  simp [rename, Response.rename, visits, Model.events_rename, List.flatMap_assoc]

theorem Service.events_rename (service : Service) :
    (service.rename rules).events =
      .convertingResults service.name service.operations.length ::
        service.visits.flatMap (Visit.log rules) := by
  simp [rename, visits, Operation.events_rename, List.flatMap_assoc]

theorem Client.events_rename (client : Client) :
    (client.rename rules).events =
      .convertingNames client.models.length client.services.length ::
        (client.models.flatMap (fun model => (model.rename rules).events) ++
          client.services.flatMap fun service => (service.rename rules).events) := by
  simp [rename]

/-! ## Replaying the changes -/

def Event.Entry.text? (entry : Entry) (field : String) : Option String :=
  match entry.fields.lookup field with
  | some (.text text) => some text
  | _ => none

section

variable (message old new : String)

@[simp] theorem Event.Entry.message_ofChange :
    (Entry.ofChange message old new).message = message := rfl

@[simp] theorem Event.Entry.text?_from_ofChange :
    (Entry.ofChange message old new).text? "from" = some old := rfl

@[simp] theorem Event.Entry.text?_to_ofChange :
    (Entry.ofChange message old new).text? "to" = some new := rfl

end

namespace Visit

/-- The name after a change, if that is a change of this name.  An interface keeps its name. -/
def take? (entry : Event.Entry) : Visit → Option Visit
  | model kind name =>
      if entry.message = "renamed model" ∧ kind ≠ .interface ∧ entry.text? "from" = some name then
        (entry.text? "to").map (model kind)
      else none
  | member name =>
      if entry.message = "renamed enum member" ∧ entry.text? "from" = some name then
        (entry.text? "to").map member
      else none

def replay (visit : Visit) : List Event.Entry → Visit × List Event.Entry
  | [] => (visit, [])
  | entry :: entries =>
      match visit.take? entry with
      | some new => (new, entries)
      | none => (visit, entry :: entries)

end Visit

/-- Gives every name the new one of the next entry, if that is a change of this name, and keeps the
entries that are left over. -/
def replay : List Visit → List Event.Entry → List Visit × List Event.Entry
  | [], entries => ([], entries)
  | visit :: visits, entries =>
      let (visit, entries) := visit.replay entries
      let (visits, entries) := replay visits entries
      (visit :: visits, entries)

namespace Visit

theorem mem_change {visit : Visit} {entry : Event.Entry}
    (h : entry ∈ visit.change (visit.rename rules)) :
    (∃ old, entry = .ofChange "renamed model" old (rules.model old) ∧ rules.model old ≠ old) ∨
      ∃ old, entry = .ofChange "renamed enum member" old (rules.member old) ∧
        rules.member old ≠ old := by
  cases visit with
  | model kind name =>
      simp only [change, rename, Model.newName, beq_iff_eq] at h
      by_cases hkind : kind = .interface
      · simp [hkind] at h
      · rw [if_neg hkind] at h
        by_cases hname : rules.model name = name
        · simp [hname] at h
        · exact .inl ⟨name, by simpa [hname] using h, hname⟩
  | member name =>
      simp only [change, rename] at h
      by_cases hname : rules.member name = name
      · simp [hname] at h
      · exact .inr ⟨name, by simpa [hname] using h, hname⟩

theorem take?_model_ofChange {kind : ExportKind} {name old new : String} :
    (model kind name).take? (.ofChange "renamed model" old new) =
      if kind ≠ .interface ∧ old = name then some (model kind new) else none := by
  simp [take?]

theorem take?_member_ofChange {name old new : String} :
    (member name).take? (.ofChange "renamed enum member" old new) =
      if old = name then some (member new) else none := by
  simp [take?]

theorem take?_of_rename_eq {visit other : Visit} {entry : Event.Entry}
    (h : visit.rename rules = visit) (hentry : entry ∈ other.change (other.rename rules)) :
    visit.take? entry = none := by
  rcases mem_change rules hentry with ⟨old, rfl, hne⟩ | ⟨old, rfl, hne⟩
  · cases visit with
    | model kind name =>
        rw [take?_model_ofChange]
        refine if_neg fun hchange => hne ?_
        obtain ⟨hkind, rfl⟩ := hchange
        simpa [rename, Model.newName, hkind] using h
    | member name => simp [take?]
  · cases visit with
    | model kind name => simp [take?]
    | member name =>
        rw [take?_member_ofChange]
        refine if_neg fun hchange => hne ?_
        subst hchange
        simpa [rename] using h

/-- A name that stays as it is takes no entry from later names. -/
theorem replay_of_rename_eq {visit : Visit} (h : visit.rename rules = visit)
    (visits : List Visit) :
    visit.replay (changes visits (visits.map (rename rules))) =
      (visit, changes visits (visits.map (rename rules))) := by
  cases hentries : changes visits (visits.map (rename rules)) with
  | nil => rfl
  | cons entry entries =>
      have hmem : entry ∈ changes visits (visits.map (rename rules)) := by simp [hentries]
      rw [changes, List.zipWith_map_right, List.zipWith_self] at hmem
      obtain ⟨lines, hlines, hentry⟩ := List.mem_flatten.mp hmem
      obtain ⟨other, -, rfl⟩ := List.mem_map.mp hlines
      rw [replay, take?_of_rename_eq rules h hentry]

theorem replay_change_append (visit : Visit) (visits : List Visit) :
    visit.replay (visit.change (visit.rename rules) ++ changes visits (visits.map (rename rules))) =
      (visit.rename rules, changes visits (visits.map (rename rules))) := by
  by_cases h : visit.rename rules = visit
  · have hchange : visit.change visit = [] := by cases visit <;> simp [change]
    rw [h, hchange, List.nil_append, replay_of_rename_eq rules h]
  · cases visit with
    | model kind name =>
        have hkind : kind ≠ .interface := by
          rintro rfl
          exact h rfl
        simp_all [rename, change, replay, take?_model_ofChange, Model.newName]
    | member name => simp_all [rename, change, replay, take?_member_ofChange]

end Visit

theorem replay_nil (visits : List Visit) : replay visits [] = (visits, []) := by
  induction visits with
  | nil => rfl
  | cons visit visits ih => simp only [replay, Visit.replay, ih]

theorem replay_changes (visits : List Visit) :
    replay visits (changes visits (visits.map (Visit.rename rules))) =
      (visits.map (Visit.rename rules), []) := by
  induction visits with
  | nil => rfl
  | cons visit visits ih =>
      have hchanges : changes (visit :: visits) ((visit :: visits).map (Visit.rename rules)) =
          visit.change (visit.rename rules) ++ changes visits (visits.map (Visit.rename rules)) := rfl
      rw [hchanges]
      simp only [replay, Visit.replay_change_append, ih, List.map_cons]

/-! ## The changes among the events -/

theorem Visit.filter_trace_log (visit : Visit) :
    (visit.log rules).filter (·.level = .trace) = visit.log rules := by
  cases visit <;>
    · simp only [log, Traced.reportChange, Traced.events_report]
      split <;> rfl

theorem Client.filter_trace_rename (client : Client) :
    (client.rename rules).events.filter (·.level = .trace) =
      client.visits.flatMap (Visit.log rules) := by
  have hstart : ∀ (service : String) (count : Nat),
      (Event.convertingResults service count).level ≠ .trace := nofun
  have hcounts : ∀ models services : Nat,
      (Event.convertingNames models services).level ≠ .trace := nofun
  simp only [events_rename, Model.events_rename, Service.events_rename, visits,
    List.filter_append, List.filter_flatMap, List.flatMap_append, List.flatMap_assoc,
    List.filter_cons, hstart, hcounts, decide_false, Visit.filter_trace_log]
  simp

theorem Event.level_entry_eq_iff {event : Event} :
    event.entry.level = "TRACE" ↔ event.level = .trace := by
  cases event <;> simp [entry, level, Level.text]

theorem Client.filter_trace_entries (client : Client) :
    ((client.rename rules).events.map Event.entry).filter (·.level = "TRACE") =
      changes client.visits (client.rename rules).value.visits := by
  rw [List.filter_map, visits_rename, changes_map_rename, ← filter_trace_rename]
  simp only [Function.comp_def, Event.level_entry_eq_iff]

/-! ## The log, entry by entry -/

theorem Model.entries_rename (model : Model) :
    (model.rename rules).events.map Event.entry =
      changes model.visits (model.rename rules).value.visits := by
  rw [events_rename, visits_rename, changes_map_rename]

theorem Service.entries_rename (service : Service) :
    (service.rename rules).events.map Event.entry =
      ⟨"DEBUG", "converting service results",
        [("service", .text service.name), ("operations", .count service.operations.length)]⟩ ::
      changes service.visits (service.rename rules).value.visits := by
  rw [events_rename, visits_rename, changes_map_rename]
  rfl

theorem Client.entries_rename (client : Client) :
    (client.rename rules).events.map Event.entry =
      [⟨"DEBUG", "converting client names",
        [("models", .count client.models.length), ("services", .count client.services.length)]⟩] ++
      (List.zipWith (fun old new => changes old.visits new.visits)
        client.models (client.rename rules).value.models).flatten ++
      (List.zipWith (fun old new =>
          ⟨"DEBUG", "converting service results",
            [("service", .text old.name), ("operations", .count old.operations.length)]⟩ ::
          changes old.visits new.visits)
        client.services (client.rename rules).value.services).flatten := by
  rw [events_rename, value_rename]
  simp only [List.map_cons, List.map_append, List.map_flatMap, Model.entries_rename,
    Service.entries_rename]
  simp only [List.zipWith_map_right, List.zipWith_self, List.flatMap_def]
  rfl

/--
The log of a conversion, entry by entry with level, message and fields.  A client whose names are
kept is left without any.  Otherwise the entries are the start of the run with the name of the
convention, the counts, the changes in every model, and for every service its start and the changes
in its results; and the changes, replayed on the names of the client, lead to those of the result.
-/
theorem Client.log_records_renaming (casing : Casing) (options : Options) (client : Client) :
    let result := client.convert casing options
    let log := result.events.map Event.entry
    let entries (convention : String) : List Event.Entry :=
      [⟨"DEBUG", "converting client", [("case", .text convention)]⟩,
        ⟨"DEBUG", "converting client names",
          [("models", .count client.models.length), ("services", .count client.services.length)]⟩] ++
      (List.zipWith (fun old new => changes old.visits new.visits)
        client.models result.value.models).flatten ++
      (List.zipWith (fun old new =>
          ⟨"DEBUG", "converting service results",
            [("service", .text old.name), ("operations", .count old.operations.length)]⟩ ::
          changes old.visits new.visits)
        client.services result.value.services).flatten
    (log = match casing with
      | .keep => []
      | .use .camel => entries "camel"
      | .use .snake => entries "snake"
      | .use .pascal => entries "pascal") ∧
    replay client.visits (log.filter (·.level = "TRACE")) = (result.value.visits, []) := by
  cases casing with
  | keep => exact ⟨rfl, replay_nil client.visits⟩
  | use convention =>
      let rules := convention.rules options
      have hvalue : (client.convert (.use convention) options).value =
          (client.rename rules).value := rfl
      have hlog : (client.convert (.use convention) options).events.map Event.entry =
          ⟨"DEBUG", "converting client", [("case", .text convention.text)]⟩ ::
            (client.rename rules).events.map Event.entry := rfl
      constructor
      · rw [hlog, entries_rename]
        cases convention <;> rfl
      · rw [hlog, hvalue, List.filter_cons_of_neg (by simp), filter_trace_entries, visits_rename,
          replay_changes]

end Relabel
