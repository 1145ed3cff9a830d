import Relabel.Renaming.Tree

/-!
# The outcome of a renaming

What a renaming makes of a node, without the events on the way.  A node keeps its fields, but
for its name and for the nodes that it holds, which are renamed in their places.  Models are
treated by induction on the models that they hold.
-/

namespace Relabel

@[simp] theorem Traced.value_each {α β : Type} (f : α → Traced β) (items : List α) :
    (Traced.each f items).value = items.map fun item => (f item).value := by
  induction items with
  | nil => rfl
  | cons item items ih => simp [Traced.each, ih]

namespace Model

def held (model : Model) : List Model :=
  model.link.toList ++ model.enums ++ model.properties

private theorem sizeOf_lt_of_mem_held {model inner : Model} (h : inner ∈ model.held) :
    sizeOf inner < sizeOf model := by
  obtain ⟨name, kind, type, base, template, link, description, isDefinition, isReadOnly,
    isRequired, isNullable, imports, members, enums, properties, extra⟩ := model
  simp only [held, List.mem_append, Option.mem_toList, or_assoc] at h
  simp only [Model.mk.sizeOf_spec]
  rcases h with hlink | henum | hproperty
  · subst hlink
    simp only [Option.some.sizeOf_spec]
    omega
  · have := List.sizeOf_lt_of_mem henum
    omega
  · have := List.sizeOf_lt_of_mem hproperty
    omega

@[elab_as_elim]
theorem induction_on_held {P : Model → Prop}
    (step : ∀ model : Model, (∀ inner ∈ model.held, P inner) → P model) (model : Model) :
    P model :=
  step model fun inner _ => induction_on_held step inner
termination_by sizeOf model
decreasing_by exact sizeOf_lt_of_mem_held ‹_›

theorem value_renameLink (rules : Rules) (link : Option Model) :
    (renameLink rules link).value = link.map fun model => (model.rename rules).value := by
  cases link <;> rfl

theorem value_renameList (rules : Rules) (models : List Model) :
    (renameList rules models).value = models.map fun model => (model.rename rules).value := by
  induction models with
  | nil => rfl
  | cons model models ih => simp [renameList, ih]

theorem value_rename (rules : Rules) (model : Model) :
    (model.rename rules).value =
      { model with
        name := newName rules model.kind model.name
        link := model.link.map fun inner => (inner.rename rules).value
        members := model.members.map fun member => (member.rename rules).value
        enums := model.enums.map fun inner => (inner.rename rules).value
        properties := model.properties.map fun inner => (inner.rename rules).value } := by
  cases model
  simp [rename, value_renameLink, value_renameList]

theorem name_rename (rules : Rules) (model : Model) :
    (model.rename rules).value.name =
      if model.kind = .interface then model.name else rules.model model.name := by
  rw [value_rename]
  simp [newName]

end Model

theorem Response.value_rename (rules : Rules) (response : Response) :
    (response.rename rules).value =
      { response with model := (response.model.rename rules).value } := rfl

theorem Operation.value_rename (rules : Rules) (operation : Operation) :
    (operation.rename rules).value =
      { operation with
        results := operation.results.map fun result => (result.rename rules).value } := by
  simp [rename]

theorem Service.value_rename (rules : Rules) (service : Service) :
    (service.rename rules).value =
      { service with
        operations := service.operations.map fun operation =>
          (operation.rename rules).value } := by
  simp [rename]

theorem Client.value_rename (rules : Rules) (client : Client) :
    (client.rename rules).value =
      { client with
        models := client.models.map fun model => (model.rename rules).value
        services := client.services.map fun service => (service.rename rules).value } := by
  simp [rename]

theorem Client.value_convert_use (convention : Convention) (options : Options) (client : Client) :
    (client.convert (.use convention) options).value =
      (client.rename (convention.rules options)).value := by
  simp [convert]

end Relabel
