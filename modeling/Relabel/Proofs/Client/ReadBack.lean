import Relabel.Proofs.Client.NodeType
import Relabel.Proofs.Client.Written
import Relabel.Proofs.Json.Print

/-!
# Written nodes are read again

A node that has been read, and renamed any number of times, is written as a text from which it is
read again.  Only the depth of the text can keep it from that.  A text is accepted that is not
accepted once it has been read and written: the keys that it leaves out are written, and their
lists lie deeper than the object that they belong to.
-/

namespace Relabel

open Relabel.Json

namespace NodeType

variable {type : NodeType}

/-- A renaming of a node; of a parameter and an error it changes nothing. -/
def rename : (type : NodeType) → Rules → type.Value → type.Value
  | member, rules, node => (EnumMember.rename rules node).value
  | model, rules, node => (Model.rename rules node).value
  | response, rules, node => (Response.rename rules node).value
  | parameter, _, node => node
  | error, _, node => node
  | operation, rules, node => (Operation.rename rules node).value
  | service, rules, node => (Service.rename rules node).value
  | client, rules, node => (Client.rename rules node).value

/-- The nodes that are read from a text or from a document in memory, and what becomes of them by
any number of renamings. -/
inductive Obtained (type : NodeType) : type.Value → Prop where
  | text {text : String} {node : type.Value} (read : readTextWith type.decode text = .ok node) :
      Obtained type node
  | memory {document : Json} {node : type.Value}
      (read : readJsonWith type.decode document = .ok node) : Obtained type node
  | rename {node : type.Value} (rules : Rules) (obtained : Obtained type node) :
      Obtained type (type.rename rules node)

theorem Obtained.convert {node : Client} (h : client.Obtained node) (casing : Casing)
    (options : Options) : client.Obtained (node.convert casing options).value := by
  cases casing with
  | keep => exact h
  | use convention => exact h.rename (convention.rules options)

def Canonical : (type : NodeType) → type.Value → Prop
  | member => EnumMember.Canonical
  | model => Model.Canonical
  | response => Response.Canonical
  | parameter => Parameter.Canonical
  | error => fun _ => True
  | operation => Operation.Canonical
  | service => Service.Canonical
  | client => Client.Canonical

theorem yields_decode (type : NodeType) (source : Source) :
    Yields type.decode type.Canonical source := by
  cases type with
  | member => exact EnumMember.yields_decode source
  | model => exact Model.yields_decode source
  | response => exact Response.yields_decode source
  | parameter => exact Parameter.yields_decode source
  | error => exact fun _ _ _ => trivial
  | operation => exact Operation.yields_decode source
  | service => exact Service.yields_decode source
  | client => exact Client.yields_decode source

theorem canonical_rename (rules : Rules) {node : type.Value} (h : type.Canonical node) :
    type.Canonical (type.rename rules node) := by
  cases type with
  | member => exact EnumMember.Canonical.rename rules h
  | model => exact Model.Canonical.rename rules h
  | response => exact Response.Canonical.rename rules h
  | parameter => exact h
  | error => exact h
  | operation => exact Operation.Canonical.rename rules h
  | service => exact Service.Canonical.rename rules h
  | client => exact Client.Canonical.rename rules h

theorem readsAs_toJson {node : type.Value} (h : type.Canonical node) :
    ReadsAs type.decode (type.toJson node) node := by
  cases type with
  | member => exact EnumMember.Canonical.readsAs h
  | model => exact Model.Canonical.readsAs h
  | response => exact Response.Canonical.readsAs h
  | parameter => exact Parameter.Canonical.readsAs h
  | error => exact OperationError.readsAs node
  | operation => exact Operation.Canonical.readsAs h
  | service => exact Service.Canonical.readsAs h
  | client => exact Client.Canonical.readsAs h

theorem Obtained.canonical {node : type.Value} (h : type.Obtained node) : type.Canonical node := by
  induction h with
  | text read => exact type.yields_decode _ _ _ (readTextWith_eq_ok_iff.mp read).2
  | memory read => exact type.yields_decode _ _ _ read
  | rename rules _ ih => exact canonical_rename rules ih

theorem Obtained.readTextWith_print {node : type.Value} (h : type.Obtained node)
    (hwhole : (type.toJson node).Whole) (style : Style) :
    readTextWith type.decode ((type.toJson node).print style) =
      (Route.text maxDepth).gate (type.toJson node).depth node := by
  rw [Json.readTextWith_print type.decode hwhole]
  exact readsAs_toJson h.canonical _

end NodeType

/-! ## A text that is too deep once it is written -/

namespace Model

def linked : Nat → Json
  | 0 => .object []
  | count + 1 => .object [(Field.key .link, linked count)]

def chain : Nat → Model
  | 0 => {}
  | count + 1 => { link := some (chain count) }

theorem readsAs_linked (count : Nat) : ReadsAs decode (linked count) (chain count) := by
  induction count with
  | zero =>
      have hset : ∀ field ∈ ([] : List Field), layout.Restores {} field .null := nofun
      exact layout.readsAs_of_read hset .nil (fun node extra => { node with extra }) decode_eq
        (.nil _) rfl
  | succ count ih =>
      have hlink : ReadsAs (fun route => Source.readOptional (decode route)) (linked count)
          (some (chain count)) := by
        change ReadsAs _ ((some (chain count)).elim .null fun _ => linked count) _
        refine readsAs_readOptional _ fun inner hinner => ?_
        cases hinner
        exact ⟨by cases count <;> simp [linked], ih⟩
      have hset : ∀ field ∈ [Field.link],
          layout.Restores (chain (count + 1)) field (linked count) := by
        intro field hfield node
        rw [List.mem_singleton.mp hfield]
        exact hlink.map _
      exact layout.readsAs_of_read hset (List.nodup_singleton _)
        (fun node extra => { node with extra }) decode_eq (.nil _) rfl

theorem depth_linked (count : Nat) : (linked count).depth = count + 1 := by
  induction count with
  | zero => rfl
  | succ count ih => simp [linked, depth_object, ih]

theorem whole_linked (count : Nat) : (linked count).Whole := by
  induction count with
  | zero => simp [linked, whole_object]
  | succ count ih => simp [linked, whole_object, ih]

theorem depth_of_link (link : Option Model) :
    ({ link } : Model).toJson.depth = max (link.elim .null toJson).depth 1 + 1 := by
  rw [toJson, toMembers_eq, depth_object]
  simp [Layout.written, layout, Field.all, write, ofText?, ofTexts, depth_array]

theorem whole_of_link {link : Option Model} (h : (link.elim .null toJson).Whole) :
    ({ link } : Model).toJson.Whole := by
  rw [toJson, toMembers_eq, whole_object]
  simp [Layout.written, layout, Field.all, write, ofText?, ofTexts, whole_array, h]

theorem depth_chain (count : Nat) : (chain count).toJson.depth = count + 2 := by
  induction count with
  | zero => exact depth_of_link none
  | succ count ih =>
      rw [chain, depth_of_link, Option.elim_some, ih]
      omega

theorem whole_chain (count : Nat) : (chain count).toJson.Whole := by
  induction count with
  | zero => exact whole_of_link whole_null
  | succ count ih => exact whole_of_link ih

end Model

namespace Client

def linked (count : Nat) : Json :=
  .object [(Field.key .models, .array [Model.linked count])]

def chain (count : Nat) : Client :=
  { models := [Model.chain count] }

theorem readsAs_linked (count : Nat) : ReadsAs decode (linked count) (chain count) := by
  have hmodels : ReadsAs (fun route source => source.readList route Model.decode)
      (.array [Model.linked count]) [Model.chain count] := by
    change ReadsAs _ (.array ([Model.chain count].map fun _ => Model.linked count)) _
    refine readsAs_readList fun model hmodel => ?_
    rw [List.mem_singleton.mp hmodel]
    exact Model.readsAs_linked count
  have hset : ∀ field ∈ [Field.models],
      layout.Restores (chain count) field (.array [Model.linked count]) := by
    intro field hfield node
    simp only [List.mem_singleton.mp hfield, layout_set_models]
    exact hmodels.map _
  exact layout.readsAs_of_read hset (List.nodup_singleton _)
    (fun node extra => { node with extra }) decode_eq (.nil _) rfl

theorem depth_linked (count : Nat) : (linked count).depth = count + 3 := by
  simp [linked, depth_object, depth_array, Model.depth_linked]

theorem whole_linked (count : Nat) : (linked count).Whole := by
  simp [linked, whole_object, whole_array, Model.whole_linked]

theorem depth_chain (count : Nat) : (chain count).toJson.depth = count + 4 := by
  simp [chain, toJson, depth_object, depth_array, Model.depth_chain]

theorem whole_chain (count : Nat) : (chain count).toJson.Whole := by
  simp [chain, toJson, whole_object, whole_array, Model.whole_chain]

end Client

/-- A node that has been read, and then renamed any number of times, is read again from what it is
written as, unless the written text is nested too deeply. A client whose text is accepted can be
written as a text that is one container too deep. -/
theorem NodeType.written_text_reads_back :
    (∀ (type : NodeType) (node : type.Value), type.Obtained node → (type.toJson node).Whole →
      ∀ style,
        ((type.toJson node).depth < 128 →
          readTextWith type.decode ((type.toJson node).print style) = .ok node) ∧
        (128 ≤ (type.toJson node).depth →
          ∃ fault, readTextWith type.decode ((type.toJson node).print style) = .error fault ∧
            fault.message = "recursion limit exceeded")) ∧
    ∃ text document client, readDocument text = .ok document ∧
      readTextWith Client.decode text = .ok client ∧ client.toJson.Whole ∧
      client.toJson.depth = document.depth + 1 ∧ 128 ≤ client.toJson.depth := by
  constructor
  · intro type node hnode hwhole style
    rw [hnode.readTextWith_print hwhole style]
    constructor
    · intro hdepth
      exact Route.gate_of_admits (Route.admits_maxDepth.mpr hdepth) node
    · intro hdepth
      have hrefused : ¬ (Route.text maxDepth).admits (type.toJson node).depth := by
        rw [Route.admits_maxDepth, maxDepth]
        omega
      exact ⟨.form .tooDeep, if_neg hrefused, rfl⟩
  · have hdepth : (Client.linked 124).depth < maxDepth := by
      rw [Client.depth_linked]
      decide
    have hdocument := readDocument_print (Client.whole_linked 124) hdepth .compact
    refine ⟨(Client.linked 124).print .compact, Client.linked 124, Client.chain 124, hdocument, ?_,
      Client.whole_chain 124, ?_, ?_⟩
    · rw [Json.readTextWith_print Client.decode (Client.whole_linked 124), Client.readsAs_linked]
      exact Route.gate_of_admits (Route.admits_maxDepth.mpr hdepth) _
    · rw [Client.depth_chain, Client.depth_linked]
    · rw [Client.depth_chain]

theorem NodeType.renamed_client_reads_back_deep_chain_refused :
    let renamed : Client := { models := [{ name := "CourierDepot" }] }
    client.Obtained renamed ∧ renamed.toJson.Whole ∧
      readTextWith Client.decode (renamed.toJson.print .pretty) = .ok renamed ∧
      ∃ fault, readTextWith Client.decode ((Client.chain 124).toJson.print .compact) =
          .error fault ∧ fault.message = "recursion limit exceeded" := by
  intro renamed
  let document : Json := .object [("models", .array [.object [("name", .text "courier_depot")]])]
  have hread : client.Obtained { models := [{ name := "courier_depot" }] } :=
    .memory (rfl : readJsonWith Client.decode document = _)
  have hrenamed : client.Obtained renamed := hread.convert (.use .pascal) {}
  have hwhole : renamed.toJson.Whole := by
    simp [renamed, Client.toJson, Model.toJson, Model.toMembers, Model.linkToJson,
      Model.listToJson, whole_object, whole_array, ofText?, ofTexts]
  have hchain : client.Obtained (Client.chain 124) :=
    .memory (Client.readsAs_linked 124 .memory)
  refine ⟨hrenamed, hwhole, ?_, ?_⟩
  · refine (written_text_reads_back.1 client renamed hrenamed hwhole .pretty).1 ?_
    decide
  · refine (written_text_reads_back.1 client (Client.chain 124) hchain
      (Client.whole_chain 124) .compact).2 ?_
    exact (Client.depth_chain 124).ge

end Relabel
