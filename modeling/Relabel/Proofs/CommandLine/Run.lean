import Relabel.CommandLine.Run
import Relabel.Proofs.Client.Output
import Relabel.Proofs.Json.Print

/-!
# What a run makes of a document

A run renames by the rules of its settings, and without a requested convention it renames nothing.
Whatever document is accepted as a client, the text that is written spells the document rewritten
by these rules.
-/

namespace Relabel

open Relabel.Json

/-- A text spells a document, however deep that is. -/
def Json.Spelled (text : String) (document : Json) : Prop :=
  Source.ofText text = (Source.ofJson document, false)

theorem Json.Whole.spelled_print {document : Json} (h : document.Whole) (style : Style) :
    Spelled (document.print style) document :=
  Source.ofText_print h style

/-! ## Rules of a run -/

def Casing.rules (casing : Casing) (options : Options) : Rules :=
  match casing with
  | keep => .identity
  | use convention => convention.rules options

theorem Convention.keepEmpty_rules (convention : Convention) (options : Options) :
    (convention.rules options).KeepEmpty := by
  have happly : convention.apply options.boundary "" = "" := by
    have hwrite : convention.write [] = [] := by cases convention <;> rfl
    have htext : "".toList = [] := rfl
    rw [apply, applyChars, htext, hwrite, ite_self]
  refine ⟨happly, ?_⟩
  simp only [Convention.rules, happly]
  split <;> rfl

theorem Casing.keepEmpty_rules (casing : Casing) (options : Options) :
    (casing.rules options).KeepEmpty := by
  cases casing with
  | keep => exact Rules.keepEmpty_identity
  | use convention => exact convention.keepEmpty_rules options

theorem Client.value_convert (casing : Casing) (options : Options) (client : Client) :
    (client.convert casing options).value = (client.rename (casing.rules options)).value := by
  cases casing with
  | keep => exact client.rename_identity.symm
  | use convention => exact client.value_convert_use convention options

/-! ## Runs -/

theorem Client.ofText_json_eq_ok_iff {text : String} {client : Client} :
    ofText .json text = .ok client ↔ readTextWith decode text = .ok client := by
  rw [ofText]
  cases readTextWith decode text <;> simp [Except.mapError]

namespace Settings

theorem value_write (settings : Settings) (client : Client) :
    (settings.write client).value =
      (client.rename (settings.casing.rules settings.options)).value.toJson.print
        settings.style := by
  rw [← Client.value_convert]
  rfl

/-- A run loses nothing of a document and adds nothing but defaults. -/
theorem run_rewrites (settings : Settings) {text : String} {document : Json}
    (hformat : settings.inputFormat = .json) (hspelled : Spelled text document)
    (hrepeats : document.NoRepeats) (hwhole : document.Whole)
    (haccepted : ∃ client, Client.ofText .json text = .ok client) :
    ∃ output written, settings.run text = .ok output ∧ Spelled output.value written ∧
      Rewritten (settings.casing.rules settings.options) (.node .client) document written := by
  obtain ⟨client, hclient⟩ := haccepted
  have hread := Client.ofText_json_eq_ok_iff.mp hclient
  rw [readTextWith_of_ofText hspelled] at hread
  have hrewritten := Client.rewrites_decode (settings.casing.keepEmpty_rules settings.options)
    hrepeats _ _ hread
  refine ⟨settings.write client, _, ?_, ?_, hrewritten⟩
  · rw [run, hformat, hclient]
    rfl
  · rw [value_write]
    exact (hrewritten.whole hwhole).spelled_print settings.style

theorem run_rewrites_tag_object_and_undeclared_key :
    let settings : Settings := { casing := .use .pascal }
    let result : Json := .object [("in", .object [("header", .null)]), ("unit", .ofCode 3)]
    let document : Json := .object [("services", .array [.object [("operations",
      .array [.object [("results", .array [result])]])]])]
    let text := document.print .pretty
    settings.inputFormat = .json ∧ Spelled text document ∧ document.NoRepeats ∧ document.Whole ∧
      (∃ client, Client.ofText .json text = .ok client) ∧
      ∃ output written, settings.run text = .ok output ∧ Spelled output.value written ∧
        Rewritten (Convention.pascal.rules {}) (.node .client) document written := by
  intro settings result document text
  have hwhole : document.Whole := by
    simp [document, result, whole_object, whole_array, whole_ofCode]
  have hspelled : Spelled text document := hwhole.spelled_print .pretty
  have hrepeats : document.NoRepeats := noRepeats_normalize document
  have haccepted : ∃ client, Client.ofText .json text = .ok client := by
    simp only [Client.ofText_json_eq_ok_iff, readTextWith_of_ofText hspelled]
    exact ⟨_, rfl⟩
  exact ⟨rfl, hspelled, hrepeats, hwhole, haccepted,
    run_rewrites settings rfl hspelled hrepeats hwhole haccepted⟩

end Settings

end Relabel
