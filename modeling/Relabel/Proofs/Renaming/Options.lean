import Relabel.Proofs.Renaming.Composition
import Relabel.Proofs.Word.Boundary

/-!
# What the options change

Two conversions to one convention that differ in an option lead to trees of one shape.  The option
on digits changes the members alone that would start with a digit, and the option on hyphens the
names alone that nothing but a hyphen divides.
-/

namespace Relabel

/-! ## Conversions -/

namespace Client

variable (convention : Convention) (options : Options) (client : Client)

theorem erase_convert : (client.convert (.use convention) options).value.erase = client.erase :=
  client.erase_rename (convention.rules options)

theorem events_convert :
    (client.convert (.use convention) options).events =
      .convertingClient convention :: (client.rename (convention.rules options)).events := rfl

theorem visitAt?_convert (path : List Step) :
    (Node.client (client.convert (.use convention) options).value).visitAt? path =
      ((Node.client client).visitAt? path).map (Visit.rename (convention.rules options)) :=
  Node.visitAt?_rename (convention.rules options) path (.client client)

end Client

/-! ## Changes of models -/

theorem Client.filter_renamedModel_rename (rules : Rules) (client : Client) :
    (client.rename rules).events.filter (·.message = "renamed model") =
      client.visits.flatMap fun visit =>
        (visit.log rules).filter (·.message = "renamed model") := by
  have htrace : ∀ event : Event, (event.message = "renamed model" ∧ event.level = .trace) ↔
      event.message = "renamed model" := by
    intro event
    cases event <;> simp [Event.message, Event.level]
  rw [← List.filter_flatMap, ← filter_trace_rename, List.filter_filter]
  simp only [← Bool.decide_and, htrace]

theorem Visit.filter_renamedModel_log {first second : Rules} (h : first.model = second.model)
    (visit : Visit) :
    (visit.log first).filter (·.message = "renamed model") =
      (visit.log second).filter (·.message = "renamed model") := by
  have hmember : ∀ (rules : Rules) (name : String),
      ((Visit.member name).log rules).filter (·.message = "renamed model") = [] := by
    intro rules name
    simp only [log, Traced.reportChange, Traced.events_report]
    split <;> simp [Event.message]
  cases visit with
  | model kind name => simp [log, Model.newName, h]
  | member name => rw [hmember, hmember]

theorem Client.filter_renamedModel_congr {first second : Rules} (h : first.model = second.model)
    (client : Client) :
    (client.rename first).events.filter (·.message = "renamed model") =
      (client.rename second).events.filter (·.message = "renamed model") := by
  rw [filter_renamedModel_rename, filter_renamedModel_rename]
  exact List.flatMap_congr fun visit _ => visit.filter_renamedModel_log h

/-! ## Digits at the start of members -/

theorem escapeLeadingDigit_eq (name : String) :
    escapeLeadingDigit name =
      if name.toList.head?.any Char.isDigit then "_" ++ name else name := by
  rw [escapeLeadingDigit]
  split
  · simp
  · rfl

namespace Visit

/-- A member that starts with a digit gets a `_` in front.  The name of a model stays. -/
def escaped : Visit → Visit
  | model kind name => model kind name
  | member name => member (if name.toList.head?.any Char.isDigit then "_" ++ name else name)

theorem escaped_eq_model_iff {visit : Visit} {kind : ExportKind} {name : String} :
    visit.escaped = model kind name ↔ visit = model kind name := by
  cases visit <;> simp [escaped]

theorem head?_of_escaped_eq {visit : Visit} {name : String} (h : visit.escaped = member name) :
    name.toList.head?.any Char.isDigit = false := by
  cases visit with
  | model kind old => simp [escaped] at h
  | member old =>
      rw [escaped, member.injEq] at h
      rw [← h]
      split
      · simp
      · next hdigit => simpa using hdigit

theorem rename_rules (convention : Convention) (options : Options) (visit : Visit) :
    visit.rename (convention.rules options) =
      let plain := visit.rename (convention.rules { options with escapeDigits := false })
      if options.escapeDigits then plain.escaped else plain := by
  obtain ⟨boundary, escapeDigits⟩ := options
  cases escapeDigits with
  | false => rfl
  | true =>
      cases visit with
      | model kind name => rfl
      | member name => simp [rename, escaped, Convention.rules, escapeLeadingDigit_eq]

end Visit

/--
Two runs of a convention, one of which escapes digits, lead to the same tree but for members.  A
member that starts with a digit in the plain run has a `_` in front in the other, where none starts
with a digit.  Models have the same names in both runs, and the same changes are reported of them.
-/
theorem Client.escapeDigits_changes_members_alone (client : Client) (convention : Convention)
    (boundary : Boundary) :
    let escaped := client.convert (.use convention) { boundary, escapeDigits := true }
    let plain := client.convert (.use convention) { boundary, escapeDigits := false }
    escaped.value.erase = plain.value.erase ∧
    (∀ path, (Node.client escaped.value).visitAt? path =
      ((Node.client plain.value).visitAt? path).map Visit.escaped) ∧
    (∀ path name, (Node.client escaped.value).visitAt? path = some (.member name) →
      name.toList.head?.any Char.isDigit = false) ∧
    (∀ path kind name, (Node.client escaped.value).visitAt? path = some (.model kind name) ↔
      (Node.client plain.value).visitAt? path = some (.model kind name)) ∧
    escaped.events.filter (·.message = "renamed model") =
      plain.events.filter (·.message = "renamed model") := by
  intro escaped plain
  have hnames : ∀ path, (Node.client escaped.value).visitAt? path =
      ((Node.client plain.value).visitAt? path).map Visit.escaped := by
    intro path
    rw [visitAt?_convert, visitAt?_convert, Option.map_map]
    exact Option.map_congr fun visit _ => visit.rename_rules convention _
  refine ⟨?_, hnames, ?_, ?_, ?_⟩
  · rw [erase_convert, erase_convert]
  · intro path name h
    rw [hnames, Option.map_eq_some_iff] at h
    obtain ⟨visit, -, hvisit⟩ := h
    exact Visit.head?_of_escaped_eq hvisit
  · intro path kind name
    simp only [hnames, Option.map_eq_some_iff, Visit.escaped_eq_model_iff, exists_eq_right]
  · have hmodel : (convention.rules { boundary, escapeDigits := true }).model =
        (convention.rules { boundary, escapeDigits := false }).model := rfl
    rw [events_convert, events_convert, List.filter_cons_of_neg (by simp [Event.message]),
      List.filter_cons_of_neg (by simp [Event.message])]
    exact filter_renamedModel_congr hmodel client

/-! ## Hyphens -/

namespace Visit

def name : Visit → String
  | model _ name => name
  | member name => name

theorem rename_boundary_congr {convention : Convention} {first second : Boundary}
    (escapeDigits : Bool) {visit : Visit}
    (h : convention.apply first visit.name = convention.apply second visit.name) :
    visit.rename (convention.rules { boundary := first, escapeDigits }) =
      visit.rename (convention.rules { boundary := second, escapeDigits }) := by
  cases visit <;> simp_all [rename, name, Model.newName, Convention.rules]

theorem rename_eq_self {convention : Convention} {boundary : Boundary} {visit : Visit}
    (h : convention.apply boundary visit.name = visit.name) :
    visit.rename (convention.rules { boundary, escapeDigits := false }) = visit := by
  cases visit <;> simp_all [rename, name, Model.newName, Convention.rules]

end Visit

namespace Convention

theorem apply_standard_eq (convention : Convention) {name : String}
    (h : '-' ∉ name.toList ∨ DividedWithoutHyphen name.toList) :
    convention.apply .standard name = convention.apply .ignoreHyphen name := by
  have hdivides : Boundary.standard.dividesChars name.toList =
      Boundary.ignoreHyphen.dividesChars name.toList := by
    rw [Bool.eq_iff_iff, Boundary.dividesChars_standard_iff,
      Boundary.dividesChars_ignoreHyphen_iff]
    exact or_iff_right_of_imp fun hhyphen => h.resolve_left (not_not_intro hhyphen)
  rw [apply, apply, applyChars, applyChars, appliesTo, appliesTo, hdivides]

theorem apply_ignoreHyphen_eq_self {convention : Convention} (hconvention : convention ≠ .pascal)
    {name : String} (h : ¬ DividedWithoutHyphen name.toList) :
    convention.apply .ignoreHyphen name = name := by
  rw [← Boundary.dividesChars_ignoreHyphen_iff, Bool.not_eq_true] at h
  rw [← String.toList_inj, toList_apply, convention.applyChars_of_not_divides hconvention h]

end Convention

/--
Two runs of a convention, one of which takes hyphens for parts of words, lead to the same tree but
for names that a hyphen alone divides.  These names that run keeps in camel and in snake case, but
for the `_` in front of a digit.  In Pascal case there is no difference.
-/
theorem Client.boundary_changes_hyphenated_names_alone (client : Client) (convention : Convention)
    (escapeDigits : Bool) :
    let standard := client.convert (.use convention) { boundary := .standard, escapeDigits }
    let ignoring := client.convert (.use convention) { boundary := .ignoreHyphen, escapeDigits }
    standard.value.erase = ignoring.value.erase ∧
    (∀ path visit, (Node.client client).visitAt? path = some visit →
      '-' ∉ visit.name.toList ∨ DividedWithoutHyphen visit.name.toList →
      (Node.client standard.value).visitAt? path = (Node.client ignoring.value).visitAt? path) ∧
    (convention ≠ .pascal →
      ∀ path visit, (Node.client client).visitAt? path = some visit →
        ¬ DividedWithoutHyphen visit.name.toList →
        (Node.client ignoring.value).visitAt? path =
          some (if escapeDigits then visit.escaped else visit)) ∧
    (convention = .pascal → standard.value = ignoring.value) := by
  intro standard ignoring
  refine ⟨?_, ?_, ?_, ?_⟩
  · rw [erase_convert, erase_convert]
  · intro path visit hvisit hname
    rw [visitAt?_convert, visitAt?_convert, hvisit, Option.map_some, Option.map_some,
      Visit.rename_boundary_congr escapeDigits (convention.apply_standard_eq hname)]
  · intro hconvention path visit hvisit hname
    have hkept := Convention.apply_ignoreHyphen_eq_self hconvention hname
    rw [visitAt?_convert, hvisit, Option.map_some, Visit.rename_rules, Visit.rename_eq_self hkept]
  · rintro rfl
    rfl

theorem Client.hyphenated_names_kept_divided_names_alike :
    let parcel : Model :=
      { name := "x-parcel", members := [{ name := "1st-class" }, { name := "same-day_2" }] }
    let courier : Client := { models := [parcel] }
    let standard := courier.convert (.use .camel) { boundary := .standard }
    let ignoring := courier.convert (.use .camel) { boundary := .ignoreHyphen }
    (Node.client ignoring.value).visitAt? [.model 0] = some (.model .reference "x-parcel") ∧
    (Node.client ignoring.value).visitAt? [.model 0, .member 0] = some (.member "_1st-class") ∧
    (Node.client standard.value).visitAt? [.model 0, .member 1] =
      (Node.client ignoring.value).visitAt? [.model 0, .member 1] := by
  intro parcel courier standard ignoring
  have hparcel : ¬ DividedWithoutHyphen "x-parcel".toList := by
    rw [← Boundary.dividesChars_ignoreHyphen_iff]
    decide
  have hclass : ¬ DividedWithoutHyphen "1st-class".toList := by
    rw [← Boundary.dividesChars_ignoreHyphen_iff]
    decide
  have hday : DividedWithoutHyphen "same-day_2".toList := by
    rw [← Boundary.dividesChars_ignoreHyphen_iff]
    decide
  obtain ⟨-, hagree, hkept, -⟩ :=
    boundary_changes_hyphenated_names_alone courier .camel true
  have hkept := hkept (by decide)
  refine ⟨hkept [.model 0] (.model .reference "x-parcel") rfl hparcel, ?_, ?_⟩
  · exact hkept [.model 0, .member 0] (.member "1st-class") rfl hclass
  · exact hagree [.model 0, .member 1] (.member "same-day_2") rfl (.inr hday)

end Relabel
