import Relabel.Proofs.Renaming.Names

/-!
# Renamings one after the other

Two renamings in a row are one renaming by the composed rules, since the first one leaves
everything alone that steers the second.  Two renamings of a tree agree exactly if their rules
agree on the names that they are asked for in it, so a renaming is idempotent on a tree exactly
if its rules are idempotent on these names.
-/

namespace Relabel

def Rules.andThen (first second : Rules) : Rules where
  model name := second.model (first.model name)
  member name := second.member (first.member name)

namespace Visit

theorem rename_rename (first second : Rules) (visit : Visit) :
    (visit.rename first).rename second = visit.rename (first.andThen second) := by
  cases visit with
  | model kind name =>
      by_cases h : kind = .interface <;> simp [rename, Model.newName, h, Rules.andThen]
  | member name => rfl

theorem rename_identity (visit : Visit) : visit.rename .identity = visit := by
  cases visit with
  | model kind name => simp [rename, Model.newName, Rules.identity]
  | member name => rfl

end Visit

namespace Node

theorem rename_rename (first second : Rules) (node : Node) :
    (node.rename first).rename second = node.rename (first.andThen second) := by
  refine eq_of_erase_eq (by simp only [erase_rename]) fun path => ?_
  simp only [visitAt?_rename, Option.map_map]
  exact Option.map_congr fun visit _ => visit.rename_rename first second

theorem rename_identity (node : Node) : node.rename .identity = node := by
  refine eq_of_erase_eq (erase_rename .identity node) fun path => ?_
  rw [visitAt?_rename, Option.map_congr fun visit _ => visit.rename_identity, Option.map_id']

def Visits (node inner : Node) : Prop :=
  ∃ path, node.at? path = some inner

theorem visits_self (node : Node) : node.Visits node := ⟨[], rfl⟩

theorem visits_of_child? {node child inner : Node} (step : Step)
    (hchild : node.child? step = some child) (h : child.Visits inner) : node.Visits inner := by
  obtain ⟨path, hpath⟩ := h
  exact ⟨step :: path, by simpa [at?, hchild] using hpath⟩

theorem visits_iff {node inner : Node} :
    node.Visits inner ↔
      inner = node ∨ ∃ step child, node.child? step = some child ∧ child.Visits inner := by
  constructor
  · rintro ⟨path, hpath⟩
    cases path with
    | nil => exact .inl (by simpa [at?, eq_comm] using hpath)
    | cons step path =>
        simp only [at?, Option.bind_eq_some_iff] at hpath
        obtain ⟨child, hchild, hpath⟩ := hpath
        exact .inr ⟨step, child, hchild, path, hpath⟩
  · rintro (rfl | ⟨step, child, hchild, h⟩)
    · exact visits_self inner
    · exact visits_of_child? step hchild h

theorem visits_member {e : EnumMember} {inner : Node} :
    (member e).Visits inner ↔ inner = member e := by
  rw [visits_iff]
  simp [child?]

theorem visits_model {m : Model} {inner : Node} :
    (model m).Visits inner ↔
      inner = model m ∨ (∃ e ∈ m.members, inner = member e) ∨
        ∃ other ∈ m.held, (model other).Visits inner := by
  rw [visits_iff]
  refine or_congr_right ⟨?_, ?_⟩
  · rintro ⟨step, child, hchild, h⟩
    cases step <;> simp only [child?, Option.map_eq_some_iff, reduceCtorEq] at hchild
    case member index =>
      obtain ⟨e, he, rfl⟩ := hchild
      exact .inl ⟨e, List.mem_of_getElem? he, visits_member.mp h⟩
    case link =>
      obtain ⟨other, hother, rfl⟩ := hchild
      exact .inr ⟨other, by simp [Model.held, hother], h⟩
    case enum index | property index =>
      obtain ⟨other, hother, rfl⟩ := hchild
      exact .inr ⟨other, by simp [Model.held, List.mem_of_getElem? hother], h⟩
  · rintro (⟨e, he, rfl⟩ | ⟨other, hother, h⟩)
    · obtain ⟨index, hindex⟩ := List.mem_iff_getElem?.mp he
      exact ⟨.member index, member e, by simp [child?, hindex], visits_self _⟩
    · simp only [Model.held, List.mem_append, Option.mem_toList, or_assoc] at hother
      rcases hother with hlink | henum | hproperty
      · exact ⟨.link, model other, by simp [child?, hlink], h⟩
      · obtain ⟨index, hindex⟩ := List.mem_iff_getElem?.mp henum
        exact ⟨.enum index, model other, by simp [child?, hindex], h⟩
      · obtain ⟨index, hindex⟩ := List.mem_iff_getElem?.mp hproperty
        exact ⟨.property index, model other, by simp [child?, hindex], h⟩

theorem visits_client {c : Client} {inner : Node} :
    (client c).Visits inner ↔
      inner = client c ∨ (∃ m ∈ c.models, (model m).Visits inner) ∨
        ∃ s ∈ c.services, (service s).Visits inner := by
  rw [visits_iff]
  refine or_congr_right ⟨?_, ?_⟩
  · rintro ⟨step, child, hchild, h⟩
    cases step <;> simp only [child?, Option.map_eq_some_iff, reduceCtorEq] at hchild
    case model index =>
      obtain ⟨m, hm, rfl⟩ := hchild
      exact .inl ⟨m, List.mem_of_getElem? hm, h⟩
    case service index =>
      obtain ⟨s, hs, rfl⟩ := hchild
      exact .inr ⟨s, List.mem_of_getElem? hs, h⟩
  · rintro (⟨m, hm, h⟩ | ⟨s, hs, h⟩)
    · obtain ⟨index, hindex⟩ := List.mem_iff_getElem?.mp hm
      exact ⟨.model index, model m, by simp [child?, hindex], h⟩
    · obtain ⟨index, hindex⟩ := List.mem_iff_getElem?.mp hs
      exact ⟨.service index, service s, by simp [child?, hindex], h⟩

def SameName (first second : Rules) : Node → Prop
  | model m => m.kind ≠ .interface → first.model m.name = second.model m.name
  | member e => first.member e.name = second.member e.name
  | _ => True

variable {first second : Rules}

theorem sameName_iff {node : Node} :
    SameName first second node ↔
      node.visit?.map (Visit.rename first) = node.visit?.map (Visit.rename second) := by
  cases node with
  | model m =>
      by_cases h : m.kind = .interface <;> simp [SameName, visit?, Visit.rename, Model.newName, h]
  | member e => simp [SameName, visit?, Visit.rename]
  | _ => simp [SameName, visit?]

theorem rename_eq_iff (first second : Rules) (node : Node) :
    node.rename first = node.rename second ↔
      ∀ inner, node.Visits inner → SameName first second inner := by
  constructor
  · rintro h inner ⟨path, hpath⟩
    have hname := congrArg (visitAt? path) h
    rw [visitAt?_rename, visitAt?_rename, visitAt?, hpath] at hname
    exact sameName_iff.mpr hname
  · intro h
    refine eq_of_erase_eq (by simp only [erase_rename]) fun path => ?_
    rw [visitAt?_rename, visitAt?_rename, visitAt?]
    cases hpath : node.at? path with
    | none => rfl
    | some inner => exact sameName_iff.mp (h inner ⟨path, hpath⟩)

theorem rename_twice_iff (rules : Rules) (node : Node) :
    (node.rename rules).rename rules = node.rename rules ↔
      ∀ inner, node.Visits inner → SameName (rules.andThen rules) rules inner := by
  rw [rename_rename, rename_eq_iff]

theorem forall_sameName_iff (node : Node) :
    (∀ inner, node.Visits inner → SameName first second inner) ↔
      (∀ m, node.Visits (.model m) → m.kind ≠ .interface →
        first.model m.name = second.model m.name) ∧
      ∀ e, node.Visits (.member e) → first.member e.name = second.member e.name := by
  constructor
  · intro h
    exact ⟨fun m hm => h (.model m) hm, fun e he => h (.member e) he⟩
  · rintro ⟨hmodels, hmembers⟩ inner hinner
    cases inner with
    | model m => exact hmodels m hinner
    | member e => exact hmembers e hinner
    | _ => trivial

end Node

theorem Model.rename_identity (model : Model) : (model.rename .identity).value = model :=
  Node.model.inj (Node.rename_identity (.model model))

theorem Client.rename_identity (client : Client) : (client.rename .identity).value = client :=
  Node.client.inj (Node.rename_identity (.client client))

/--
Rules act on trees: two renamings in a row are one by the composed rules, and the identity changes
nothing.  Two renamings agree on a tree exactly if the rules agree on the names that they are asked
for in it, so a renaming settles at once exactly if its rules do on these names.
-/
theorem Node.rename_acts (node : Node) :
    (∀ first second : Rules,
      (node.rename first).rename second = node.rename (first.andThen second)) ∧
    node.rename .identity = node ∧
    (∀ first second : Rules,
      node.rename first = node.rename second ↔
        (∀ m, node.Visits (.model m) → m.kind ≠ .interface →
          first.model m.name = second.model m.name) ∧
        ∀ e, node.Visits (.member e) → first.member e.name = second.member e.name) ∧
    ∀ rules : Rules,
      (node.rename rules).rename rules = node.rename rules ↔
        (∀ m, node.Visits (.model m) → m.kind ≠ .interface →
          rules.model (rules.model m.name) = rules.model m.name) ∧
        ∀ e, node.Visits (.member e) → rules.member (rules.member e.name) = rules.member e.name := by
  refine ⟨fun first second => rename_rename first second node, rename_identity node, ?_, ?_⟩
  · intro first second
    exact (rename_eq_iff first second node).trans (forall_sameName_iff node)
  · intro rules
    exact (rename_twice_iff rules node).trans (forall_sameName_iff node)

end Relabel
