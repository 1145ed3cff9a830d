import Relabel.Proofs.Client.Repeat
import Relabel.Proofs.Json.Print

/-!
# A node from a text and the same node from memory

A text can be read as a node at once, or first as a document in normal form and then as a node.
Where no key is repeated this makes no difference, whatever the order of the members; where a
node repeats a key that it declares, the text is refused.
-/

namespace Relabel

open Relabel.Json

namespace NodeType

variable (type : NodeType)

theorem readTextWith_of_readDocument {text : String} {document : Json}
    (h : readDocument text = .ok document) :
    readTextWith type.decode text = type.decode (.text maxDepth) (Source.ofJson document) :=
  readTextWith_of_ofText (readDocument_eq_ok_iff.mp h).1

theorem toOption_readTextWith {text : String} {document : Json}
    (h : readDocument text = .ok document) (hrepeats : document.NoRepeats) :
    (readTextWith type.decode text).toOption =
      (readJsonWith type.decode document.normalize).toOption := by
  have hdepth := Route.admits_maxDepth.mpr (readDocument_eq_ok_iff.mp h).2
  rw [readTextWith_of_readDocument type h]
  exact type.uniform_decode hrepeats _ hdepth

/-- Reading a node from a text and reading it from the document of the text in memory both succeed
with one result or both fail, and the order of the members has no part in it, if no object of the
text repeats a key. If an object that is read as a node repeats a key of that node, the text is
refused. -/
theorem text_agrees_with_memory {text : String} {value : Json} (h : parse text = .ok value) :
    ∃ document, readDocument text = .ok document ∧ document.normalize = value ∧
      (document.NoRepeats →
        (readTextWith type.decode text).toOption = (readJsonWith type.decode value).toOption ∧
        ∀ text' document', readDocument text' = .ok document' → document.Permuted document' →
          (readTextWith type.decode text').toOption = (readTextWith type.decode text).toOption) ∧
      ∀ holder members key, type.Holds document holder (.object members) → key ∈ holder.keys →
        1 < (members.map Prod.fst).count key →
          (readTextWith type.decode text).toOption = none := by
  rw [parse_eq, map_eq_ok_iff] at h
  obtain ⟨document, hdocument, hvalue⟩ := h
  refine ⟨document, hdocument, hvalue, fun hrepeats => ⟨?_, ?_⟩, ?_⟩
  · rw [← hvalue]
    exact toOption_readTextWith type hdocument hrepeats
  · intro text' document' hdocument' hpermuted
    rw [toOption_readTextWith type hdocument' (hpermuted.noRepeats hrepeats),
      toOption_readTextWith type hdocument hrepeats, hpermuted.normalize_eq hrepeats]
  · intro holder members key hholds hkey hcount
    rw [toOption_eq_none_iff]
    intro node hnode
    rw [readTextWith_of_readDocument type hdocument] at hnode
    have hread : holder.Read (.object members) := hholds.read ⟨_, node, hnode⟩
    exact absurd (holder.count_le_one hread hkey) (by omega)

theorem response_accepted_permuted_alike_repeated_refused :
    let courier := "\x7b\"name\":\"Courier\",\"in\":\"header\"\x7d"
    let permuted := "\x7b\"in\":\"header\",\"name\":\"Courier\"\x7d"
    let repeated := "\x7b\"name\":\"Courier\",\"name\":\"Depot\"\x7d"
    let value := Json.object [("in", .text "header"), ("name", .text "Courier")]
    let node : Response := { location := .header, model := { name := "Courier" } }
    parse courier = .ok value ∧
      (readTextWith response.decode courier).toOption = some node ∧
      (readJsonWith response.decode value).toOption = some node ∧
      (readTextWith response.decode permuted).toOption = some node ∧
      (readTextWith response.decode repeated).toOption = none := by
  intro courier permuted repeated value node
  have hread : ∀ first second : String × String,
      readDocument ((Json.object [(first.1, .text first.2), (second.1, .text second.2)]).print
        .compact) = .ok (.object [(first.1, .text first.2), (second.1, .text second.2)]) := by
    intro first second
    refine readDocument_print ?_ ?_ .compact
    · simp [whole_object, whole_text]
    · simp [depth, depthOfMembers, maxDepth]
  have hcourier : readDocument courier =
      .ok (.object [("name", .text "Courier"), ("in", .text "header")]) :=
    hread ("name", "Courier") ("in", "header")
  have hpermuted : readDocument permuted = .ok value := hread ("in", "header") ("name", "Courier")
  have hrepeated : readDocument repeated =
      .ok (.object [("name", .text "Courier"), ("name", .text "Depot")]) :=
    hread ("name", "Courier") ("name", "Depot")
  have hparse : parse courier = .ok value := by
    rw [parse_eq, hcourier]
    rfl
  have hparse' : parse repeated = .ok (.object [("name", .text "Depot")]) := by
    rw [parse_eq, hrepeated]
    rfl
  obtain ⟨document, hdocument, -, hagrees, -⟩ := text_agrees_with_memory response hparse
  obtain rfl := Except.ok.inj (hcourier.symm.trans hdocument)
  have hrepeats : (Json.object [("name", .text "Courier"), ("in", .text "header")]).NoRepeats := by
    rw [noRepeats_object]
    exact ⟨by decide, by simp [noRepeats_text]⟩
  obtain ⟨hmemory, horder⟩ := hagrees hrepeats
  obtain ⟨document, hdocument, -, -, hrefused⟩ := text_agrees_with_memory response hparse'
  obtain rfl := Except.ok.inj (hrepeated.symm.trans hdocument)
  have hvalue : (readJsonWith response.decode value).toOption = some node := by rfl
  have hswapped := horder permuted value hpermuted (.members (.swap ..))
  refine ⟨hparse, hmemory.trans hvalue, hvalue, hswapped.trans (hmemory.trans hvalue), ?_⟩
  exact hrefused response _ "name" (.self ..) (by decide) (by decide)

end NodeType

end Relabel
