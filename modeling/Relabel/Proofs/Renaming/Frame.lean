import Relabel.Proofs.Renaming.Position

/-!
# What a renaming leaves alone

A tree without names keeps all but the names of the models and members that have a position.
A renaming does not change it, so all that it changes are these names, and each of them is
changed once, by the rule for its kind of node.
-/

namespace Relabel

def EnumMember.erase (member : EnumMember) : EnumMember :=
  { member with name := "" }

namespace Model

mutual

/-- A model without its name and the names of what it holds. -/
def erase : Model → Model
  | { name := _, kind, type, base, template, link, description, isDefinition, isReadOnly,
      isRequired, isNullable, imports, members, enums, properties, extra } =>
      { name := "", kind, type, base, template, link := eraseLink link, description,
        isDefinition, isReadOnly, isRequired, isNullable, imports,
        members := members.map EnumMember.erase, enums := eraseList enums,
        properties := eraseList properties, extra }

def eraseLink : Option Model → Option Model
  | none => none
  | some model => some (erase model)

def eraseList : List Model → List Model
  | [] => []
  | model :: rest => erase model :: eraseList rest

end

theorem eraseLink_eq (link : Option Model) : eraseLink link = link.map erase := by
  cases link <;> rfl

theorem eraseList_eq (models : List Model) : eraseList models = models.map erase := by
  induction models with
  | nil => rfl
  | cons model models ih => simp [eraseList, ih]

theorem erase_eq (model : Model) :
    model.erase =
      { model with
        name := "", link := model.link.map erase, members := model.members.map EnumMember.erase,
        enums := model.enums.map erase, properties := model.properties.map erase } := by
  cases model
  simp [erase, eraseLink_eq, eraseList_eq]

end Model

def Response.erase (response : Response) : Response :=
  { response with model := response.model.erase }

def Operation.erase (operation : Operation) : Operation :=
  { operation with results := operation.results.map Response.erase }

def Service.erase (service : Service) : Service :=
  { service with operations := service.operations.map Operation.erase }

def Client.erase (client : Client) : Client :=
  { client with
    models := client.models.map Model.erase
    services := client.services.map Service.erase }

/-- A node without the names of the models and members that have a position in it. -/
def Node.erase : Node → Node
  | client c => client c.erase
  | service s => service s.erase
  | operation o => operation o.erase
  | response r => response r.erase
  | model m => model m.erase
  | member e => member e.erase

theorem EnumMember.erase_rename (rules : Rules) (member : EnumMember) :
    (member.rename rules).value.erase = member.erase := rfl

theorem Model.erase_rename (rules : Rules) (model : Model) :
    (model.rename rules).value.erase = model.erase := by
  induction model using Model.induction_on_held with
  | step model ih =>
      have hlink : ∀ inner, model.link = some inner →
          (inner.rename rules).value.erase = inner.erase := fun inner h =>
        ih inner (by simp [held, h])
      have henums : ∀ inner ∈ model.enums, (inner.rename rules).value.erase = inner.erase :=
        fun inner h => ih inner (by simp [held, h])
      have hproperties : ∀ inner ∈ model.properties,
          (inner.rename rules).value.erase = inner.erase :=
        fun inner h => ih inner (by simp [held, h])
      rw [value_rename, erase_eq, erase_eq model]
      simp only [List.map_map, Option.map_map, Model.mk.injEq, true_and, and_true]
      refine ⟨?_, ?_, ?_, ?_⟩
      · exact Option.map_congr hlink
      · exact List.map_congr_left fun member _ => EnumMember.erase_rename rules member
      · exact List.map_congr_left henums
      · exact List.map_congr_left hproperties

theorem Response.erase_rename (rules : Rules) (response : Response) :
    (response.rename rules).value.erase = response.erase := by
  simp [erase, value_rename, Model.erase_rename]

theorem Operation.erase_rename (rules : Rules) (operation : Operation) :
    (operation.rename rules).value.erase = operation.erase := by
  simp [erase, value_rename, Function.comp_def, Response.erase_rename]

theorem Service.erase_rename (rules : Rules) (service : Service) :
    (service.rename rules).value.erase = service.erase := by
  simp [erase, value_rename, Function.comp_def, Operation.erase_rename]

theorem Client.erase_rename (rules : Rules) (client : Client) :
    (client.rename rules).value.erase = client.erase := by
  simp [erase, value_rename, Function.comp_def, Model.erase_rename, Service.erase_rename]

theorem Node.erase_rename (rules : Rules) (node : Node) :
    (node.rename rules).erase = node.erase := by
  cases node with
  | client c => exact congrArg client (c.erase_rename rules)
  | service s => exact congrArg service (s.erase_rename rules)
  | operation o => exact congrArg operation (o.erase_rename rules)
  | response r => exact congrArg response (r.erase_rename rules)
  | model m => exact congrArg model (m.erase_rename rules)
  | member e => exact congrArg member (e.erase_rename rules)

/--
The renamed tree has the same positions and equals the given one but for names.  A model has the
name that the rule for models makes of its name, an interface keeps its own, and a member has the
name that the rule for members makes of its name.
-/
theorem Node.rename_changes_names_alone (rules : Rules) (node : Node) :
    (node.rename rules).erase = node.erase ∧
      (∀ path, ((node.rename rules).at? path).isSome = (node.at? path).isSome) ∧
      (∀ path m, node.at? path = some (.model m) →
        ∃ renamed, (node.rename rules).at? path = some (.model renamed) ∧
          renamed.kind = m.kind ∧
          renamed.name = if m.kind = .interface then m.name else rules.model m.name) ∧
      ∀ path e, node.at? path = some (.member e) →
        ∃ renamed, (node.rename rules).at? path = some (.member renamed) ∧
          renamed.name = rules.member e.name := by
  refine ⟨erase_rename rules node, ?_, ?_, ?_⟩
  · intro path
    simp [at?_rename]
  · intro path m hm
    refine ⟨(m.rename rules).value, ?_, ?_, Model.name_rename rules m⟩
    · rw [at?_rename, hm]
      rfl
    · rw [Model.value_rename]
  · intro path e he
    refine ⟨(e.rename rules).value, ?_, rfl⟩
    rw [at?_rename, he]
    rfl

end Relabel
