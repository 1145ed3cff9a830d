import Relabel.Proofs.Renaming.Frame
import Relabel.Proofs.Renaming.Log

/-!
# Trees and their names

What is left of a tree without its names, together with the name at every position, is all of the
tree.  A renaming keeps the former and renames the latter one by one, so the laws of renamings of
trees are those of their rules on names.
-/

namespace Relabel

namespace Node

def visit? : Node → Option Visit
  | model m => some (.model m.kind m.name)
  | member e => some (.member e.name)
  | _ => none

def visitAt? (path : List Step) (node : Node) : Option Visit :=
  (node.at? path).bind visit?

theorem visit?_rename (rules : Rules) (node : Node) :
    (node.rename rules).visit? = node.visit?.map (Visit.rename rules) := by
  cases node with
  | model m =>
      rw [rename, Model.value_rename]
      rfl
  | _ => rfl

theorem visitAt?_rename (rules : Rules) (path : List Step) (node : Node) :
    (node.rename rules).visitAt? path = (node.visitAt? path).map (Visit.rename rules) := by
  rw [visitAt?, visitAt?, at?_rename]
  cases node.at? path with
  | none => rfl
  | some inner => exact visit?_rename rules inner

/-! ## A tree from its names -/

def NamesAgree (first second : Node) : Prop :=
  ∀ path, first.visitAt? path = second.visitAt? path

theorem NamesAgree.child {first second firstChild secondChild : Node} (step : Step)
    (h : NamesAgree first second) (hfirst : first.child? step = some firstChild)
    (hsecond : second.child? step = some secondChild) : NamesAgree firstChild secondChild := by
  intro path
  simpa [visitAt?, at?, hfirst, hsecond] using h (step :: path)

end Node

private theorem eq_of_map_eq {α β : Type} (shape : α → β) {first second : List α}
    (hshape : first.map shape = second.map shape)
    (hitems : ∀ (index : Nat) (a b : α), first[index]? = some a → second[index]? = some b →
      shape a = shape b → a = b) : first = second := by
  refine List.ext_getElem? fun index => ?_
  have hindex : first[index]?.map shape = second[index]?.map shape := by
    rw [← List.getElem?_map, ← List.getElem?_map, hshape]
  cases hfirst : first[index]? with
  | none =>
      rw [hfirst, Option.map_none, eq_comm, Option.map_eq_none_iff] at hindex
      exact hindex.symm
  | some a =>
      rw [hfirst, Option.map_some, eq_comm, Option.map_eq_some_iff] at hindex
      obtain ⟨b, hsecond, hsame⟩ := hindex
      rw [hsecond, hitems index a b hfirst hsecond hsame.symm]

open Node (NamesAgree)

theorem EnumMember.eq_of_erase_eq {first second : EnumMember}
    (hshape : first.erase = second.erase)
    (hnames : NamesAgree (.member first) (.member second)) : first = second := by
  have hname : first.name = second.name := by
    simpa [Node.visitAt?, Node.at?, Node.visit?] using hnames []
  cases first
  cases second
  simp_all [erase]

theorem Model.eq_of_erase_eq {first second : Model} (hshape : first.erase = second.erase)
    (hnames : NamesAgree (.model first) (.model second)) : first = second := by
  induction first using Model.induction_on_held generalizing second with
  | step first ih =>
      have hroot := hnames []
      simp only [Node.visitAt?, Node.at?, Node.visit?, Option.bind_some, Option.some.injEq,
        Visit.model.injEq] at hroot
      have hheld : ∀ (step : Step) (a b : Model),
          (Node.model first).child? step = some (.model a) →
          (Node.model second).child? step = some (.model b) → a ∈ first.held →
          a.erase = b.erase → a = b :=
        fun step a b ha hb hmem hsame => ih a hmem hsame (hnames.child step ha hb)
      rw [erase_eq, erase_eq second] at hshape
      simp only [Model.mk.injEq, true_and] at hshape
      have hlink : first.link = second.link := by
        have hshape : first.link.map erase = second.link.map erase := by simp [hshape]
        cases ha : first.link with
        | none => simpa [ha, eq_comm] using hshape
        | some a =>
            rw [ha, Option.map_some, eq_comm, Option.map_eq_some_iff] at hshape
            obtain ⟨b, hb, hsame⟩ := hshape
            rw [hb, hheld .link a b (by simp [Node.child?, ha]) (by simp [Node.child?, hb])
              (by simp [held, ha]) hsame.symm]
      have hmembers : first.members = second.members :=
        eq_of_map_eq EnumMember.erase (by simp [hshape]) fun index a b ha hb hsame =>
          EnumMember.eq_of_erase_eq hsame (hnames.child (.member index)
            (by simp [Node.child?, ha]) (by simp [Node.child?, hb]))
      have henums : first.enums = second.enums :=
        eq_of_map_eq erase (by simp [hshape]) fun index a b ha hb hsame =>
          hheld (.enum index) a b (by simp [Node.child?, ha]) (by simp [Node.child?, hb])
            (by simp [held, List.mem_of_getElem? ha]) hsame
      have hproperties : first.properties = second.properties :=
        eq_of_map_eq erase (by simp [hshape]) fun index a b ha hb hsame =>
          hheld (.property index) a b (by simp [Node.child?, ha]) (by simp [Node.child?, hb])
            (by simp [held, List.mem_of_getElem? ha]) hsame
      cases first
      cases second
      simp_all

theorem Response.eq_of_erase_eq {first second : Response} (hshape : first.erase = second.erase)
    (hnames : NamesAgree (.response first) (.response second)) : first = second := by
  simp only [erase, Response.mk.injEq] at hshape
  have hmodel : first.model = second.model :=
    Model.eq_of_erase_eq (by simp [hshape]) (hnames.child .content rfl rfl)
  cases first
  cases second
  simp_all

theorem Operation.eq_of_erase_eq {first second : Operation} (hshape : first.erase = second.erase)
    (hnames : NamesAgree (.operation first) (.operation second)) : first = second := by
  simp only [erase, Operation.mk.injEq] at hshape
  have hresults : first.results = second.results :=
    eq_of_map_eq Response.erase (by simp [hshape]) fun index a b ha hb hsame =>
      Response.eq_of_erase_eq hsame (hnames.child (.result index)
        (by simp [Node.child?, ha]) (by simp [Node.child?, hb]))
  cases first
  cases second
  simp_all

theorem Service.eq_of_erase_eq {first second : Service} (hshape : first.erase = second.erase)
    (hnames : NamesAgree (.service first) (.service second)) : first = second := by
  simp only [erase, Service.mk.injEq] at hshape
  have hoperations : first.operations = second.operations :=
    eq_of_map_eq Operation.erase (by simp [hshape]) fun index a b ha hb hsame =>
      Operation.eq_of_erase_eq hsame (hnames.child (.operation index)
        (by simp [Node.child?, ha]) (by simp [Node.child?, hb]))
  cases first
  cases second
  simp_all

theorem Client.eq_of_erase_eq {first second : Client} (hshape : first.erase = second.erase)
    (hnames : NamesAgree (.client first) (.client second)) : first = second := by
  simp only [erase, Client.mk.injEq] at hshape
  have hmodels : first.models = second.models :=
    eq_of_map_eq Model.erase (by simp [hshape]) fun index a b ha hb hsame =>
      Model.eq_of_erase_eq hsame (hnames.child (.model index)
        (by simp [Node.child?, ha]) (by simp [Node.child?, hb]))
  have hservices : first.services = second.services :=
    eq_of_map_eq Service.erase (by simp [hshape]) fun index a b ha hb hsame =>
      Service.eq_of_erase_eq hsame (hnames.child (.service index)
        (by simp [Node.child?, ha]) (by simp [Node.child?, hb]))
  cases first
  cases second
  simp_all

namespace Node

/-- A tree is given by its shape and the names in it. -/
theorem eq_of_erase_eq {first second : Node} (hshape : first.erase = second.erase)
    (hnames : NamesAgree first second) : first = second := by
  cases first <;> cases second <;>
    simp only [erase, reduceCtorEq, client.injEq, service.injEq, operation.injEq, response.injEq,
      model.injEq, member.injEq] at hshape
  case client.client => rw [Client.eq_of_erase_eq hshape hnames]
  case service.service => rw [Service.eq_of_erase_eq hshape hnames]
  case operation.operation => rw [Operation.eq_of_erase_eq hshape hnames]
  case response.response => rw [Response.eq_of_erase_eq hshape hnames]
  case model.model => rw [Model.eq_of_erase_eq hshape hnames]
  case member.member => rw [EnumMember.eq_of_erase_eq hshape hnames]

end Node

end Relabel
