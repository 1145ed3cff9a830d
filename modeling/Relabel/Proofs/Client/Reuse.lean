import Relabel.Proofs.Client.ReadBack

/-!
# Models that become responses

A response is written as one object with its model.  A model that has been read by itself may keep
a member under a key of responses.  The object of its response repeats that key, and is refused
when it is read again; so is every operation that has such a response among its results.
-/

namespace Relabel

open Relabel.Json

/-! ## Documents that are refused -/

namespace Json

variable {α β : Type} {reader : Route → Source → Except Fault α} {document : Json} {fault : Fault}

/-- The fault of a document on every route that is deep enough for it. -/
def Refuses (reader : Route → Source → Except Fault α) (document : Json) (fault : Fault) : Prop :=
  ∀ route : Route, route.admits document.depth →
    reader route (Source.ofJson document) = .error fault

theorem Refuses.map (h : Refuses reader document fault) (f : α → β) :
    Refuses (fun route source => return f (← reader route source)) document fault := by
  intro route hadmits
  simp only [h route hadmits]
  rfl

theorem refuses_readList {before after : List Json}
    (hbefore : ∀ item ∈ before, ∃ a, ReadsAs reader item a) (h : Refuses reader document fault) :
    Refuses (fun route => Source.readList route reader) (.array (before ++ document :: after))
      fault := by
  intro route hadmits
  obtain ⟨hroute, hinner⟩ := Route.admits_depth_array.mp hadmits
  simp only [Source.ofJson, Source.ofItems_eq, Source.readList_array hroute, List.mapM_map]
  refine mapM_append_cons_eq_error (fun item hitem => ?_) (h _ (hinner document (by simp)))
  obtain ⟨a, ha⟩ := hbefore item hitem
  exact ⟨a, (ha _).trans (Route.gate_of_admits (hinner item (by simp [hitem])) a)⟩

theorem readTextWith_print_of_taken {a : α} {key? : Option String} (hwhole : document.Whole)
    (hdepth : document.depth < maxDepth) (hfree : key? = none → ReadsAs reader document a)
    (htaken : ∀ key, key? = some key → Refuses reader document (.content (.duplicateKey key)))
    (style : Style) :
    (readTextWith reader (document.print style) = .ok a ↔ key? = none) ∧
      ∀ key, key? = some key →
        readTextWith reader (document.print style) = .error (.content (.duplicateKey key)) := by
  have hadmits : (Route.text maxDepth).admits document.depth := Route.admits_maxDepth.mpr hdepth
  rw [readTextWith_print reader hwhole]
  cases key? with
  | none => simp [hfree rfl _, Route.gate_of_admits hadmits]
  | some key => simp [htaken key rfl _ hadmits]

end Json

namespace Layout

variable {φ α : Type} [DecidableEq φ] (layout : Layout φ α) {name : String} {source : α}
  {fields before after : List φ} {write : φ → Json} {extra : List (String × Json)} {fault : Fault}

theorem ofObject_eq_error {route : Route} {members : List (String × Json)}
    (hroute : route.admits 1)
    (h : (Draft.start layout.empty).takeAll layout.declared (layout.set route.inner)
      (Source.read route.inner) (members.map Source.ofMember) = .error fault) :
    layout.read name route (Source.ofJson (.object members)) = .error fault := by
  rw [Source.ofJson, Source.ofMembers_eq, read, Draft.ofObject, Route.enter_eq,
    Route.gate_of_admits hroute, ok_bind, h]
  rfl

theorem take_key_eq_error {draft : Draft φ α} {field : φ} {set : φ → α → Except Fault α}
    {other : Unit → Except Fault Json} (hseen : field ∉ draft.seen)
    (h : ∀ node, set field node = .error fault) :
    draft.take layout.declared (.ok (layout.key field)) set other = .error fault := by
  rw [layout.take_key hseen, h]
  rfl

theorem takeAll_append_cons_eq_error {set : φ → Source → α → Except Fault α}
    {other : Source → Except Fault Json} {draft next : Draft φ α}
    {xs ys : List (Except SyntaxFault String × Source)}
    {member : Except SyntaxFault String × Source}
    (hxs : draft.takeAll layout.declared set other xs = .ok next)
    (hmember : next.take layout.declared member.1 (set · member.2) (fun _ => other member.2) =
      .error fault) :
    draft.takeAll layout.declared set other (xs ++ member :: ys) = .error fault := by
  rw [takeAll_append, hxs, ok_bind, Draft.takeAll, hmember]
  rfl

theorem takeAll_fields_of_admits {route : Route} {other : Source → Except Fault Json}
    (hset : ∀ field ∈ fields, layout.Restores source field (write field)) (hnodup : fields.Nodup)
    (hadmits : ∀ field ∈ fields, route.admits (write field).depth) :
    (Draft.start layout.empty).takeAll layout.declared (layout.set route) other
        ((fields.map fun field => (layout.key field, write field)).map Source.ofMember) =
      .ok ⟨layout.copyAll source fields layout.empty, fields.reverse, []⟩ := by
  rw [layout.takeAll_fields hset hnodup fun _ _ => List.not_mem_nil,
    Route.gate_of_admits (Route.admits_deepest.mpr (List.forall_mem_map.mpr hadmits))]
  simp [Draft.start]

theorem admits_written {route : Route} :
    route.admits (Json.object (layout.written fields write extra)).depth ↔
      route.admits 1 ∧ (∀ field ∈ fields, route.inner.admits (write field).depth) ∧
        ∀ member ∈ extra, route.inner.admits member.2.depth := by
  rw [Route.admits_depth_object, written, List.forall_mem_append, List.forall_mem_map]

theorem refuses_field {field : φ}
    (hset : ∀ field ∈ before, layout.Restores source field (write field))
    (hnodup : (before ++ field :: after).Nodup)
    (h : ∀ node, Refuses (fun route part => layout.set route field part node) (write field) fault) :
    Refuses (layout.read name) (.object (layout.written (before ++ field :: after) write extra))
      fault := by
  intro route hadmits
  obtain ⟨hroute, hfields, -⟩ := layout.admits_written.mp hadmits
  obtain ⟨hbefore, -, hapart⟩ := List.nodup_append.mp hnodup
  have hunseen : field ∉ before.reverse := fun hmem =>
    hapart field (List.mem_reverse.mp hmem) field List.mem_cons_self rfl
  refine layout.ofObject_eq_error hroute ?_
  simp only [written, List.map_append, List.map_cons, List.append_assoc, List.cons_append]
  refine layout.takeAll_append_cons_eq_error (layout.takeAll_fields_of_admits hset hbefore
    fun other hother => hfields other (List.mem_append_left _ hother)) ?_
  exact layout.take_key_eq_error hunseen fun node =>
    h node route.inner (hfields field (List.mem_append_right _ List.mem_cons_self))

theorem refuses_repeated {field : φ} {value : Json} {kept others : List (String × Json)}
    (hset : ∀ field ∈ fields, layout.Restores source field (write field)) (hnodup : fields.Nodup)
    (hfield : field ∈ fields) (hkept : ∀ member ∈ kept, member.1 ∉ layout.keys) :
    Refuses (layout.read name)
      (.object (layout.written fields write (kept ++ (layout.key field, value) :: others)))
      (.content (.duplicateKey (layout.key field))) := by
  intro route hadmits
  obtain ⟨hroute, hfields, hextra⟩ := layout.admits_written.mp hadmits
  have hothers : route.inner.admits (deepest (kept.map fun member => member.2.depth)) :=
    Route.admits_deepest.mpr (List.forall_mem_map.mpr fun member hmember =>
      hextra member (List.mem_append_left _ hmember))
  have htaken : (Draft.start layout.empty).takeAll layout.declared (layout.set route.inner)
      (Source.read route.inner) ((fields.map fun field => (layout.key field, write field)).map
        Source.ofMember ++ kept.map Source.ofMember) =
      .ok ⟨layout.copyAll source fields layout.empty, fields.reverse, kept.reverse⟩ := by
    rw [takeAll_append, layout.takeAll_fields_of_admits hset hnodup hfields, ok_bind,
      layout.takeAll_undeclared hkept fun member _ route => Source.read_ofJson route member.2,
      Route.gate_of_admits hothers, List.append_nil]
  refine layout.ofObject_eq_error hroute ?_
  rw [written, List.map_append, List.map_append, ← List.append_assoc, List.map_cons]
  exact layout.takeAll_append_cons_eq_error htaken (layout.take_seen (List.mem_reverse.mpr hfield))

end Layout

/-! ## Responses -/

theorem Model.toMembers_append {model : Model} {before after : List (String × Json)}
    (h : model.extra = before ++ after) :
    model.toMembers = { model with extra := before }.toMembers ++ after := by
  rw [toMembers_eq, toMembers_eq, h, Layout.written, Layout.written, List.append_assoc]
  rfl

namespace Response

/-- The first key of a response that the model keeps a member under. -/
def takenKey? (model : Model) : Option String :=
  (model.extra.map Prod.fst).find? (· ∈ layout.keys)

theorem mem_keys_iff {key : String} : key ∈ layout.keys ↔ key = "in" ∨ key = "code" := by
  change key ∈ ["in", "code"] ↔ _
  simp

theorem takenKey?_eq_none_iff {model : Model} :
    takenKey? model = none ↔ ∀ member ∈ model.extra, member.1 ∉ layout.keys := by
  simp [takenKey?]

theorem exists_of_takenKey?_eq_some {model : Model} {key : String}
    (h : takenKey? model = some key) :
    key ∈ layout.keys ∧ ∃ value before after, model.extra = before ++ (key, value) :: after ∧
      ∀ member ∈ before, member.1 ∉ layout.keys := by
  rw [takenKey?, List.find?_map, Option.map_eq_some_iff] at h
  obtain ⟨⟨key, value⟩, hfind, rfl⟩ := h
  obtain ⟨hkey, before, after, hextra, hbefore⟩ := List.find?_eq_some_iff_append.mp hfind
  refine ⟨by simpa using hkey, value, before, after, hextra, fun member hmember => ?_⟩
  simpa using hbefore member hmember

theorem canonical_of_takenKey?_eq_none {response : Response} (hmodel : response.model.Canonical)
    (h : takenKey? response.model = none) : response.Canonical :=
  ⟨hmodel, takenKey?_eq_none_iff.mp h⟩

/-- The members of the model ahead of the taken key are left over, so that the key is the first
to be refused. -/
theorem refuses_toJson {response : Response} {key : String}
    (h : takenKey? response.model = some key) :
    Refuses decode response.toJson (.content (.duplicateKey key)) := by
  obtain ⟨hkey, value, before, after, hextra, hbefore⟩ := exists_of_takenKey?_eq_some h
  obtain ⟨field, -, rfl⟩ := List.mem_map.mp hkey
  have hkept : ∀ member ∈ { response.model with extra := before }.toMembers,
      member.1 ∉ layout.keys :=
    Model.undeclared_toMembers (by decide) hbefore
  have hwritten : response.toJson = .object (layout.written layout.all response.write
      ({ response.model with extra := before }.toMembers ++
        (layout.key field, value) :: after)) := by
    rw [← Model.toMembers_append hextra]
    rfl
  have hread : Refuses (layout.read "OperationResponse") response.toJson
      (.content (.duplicateKey (layout.key field))) := by
    rw [hwritten]
    exact layout.refuses_repeated (fun field _ => response.restores field) layout.nodup_all
      (layout.mem_all field) hkept
  intro route hadmits
  rw [decode_eq, hread route hadmits]
  rfl

theorem depth_toJson (response : Response) :
    response.toJson.depth = response.model.toJson.depth := by
  simp [toJson, Model.toJson, depth_object, ofCode, depth]

theorem whole_toJson {response : Response} :
    response.toJson.Whole ↔ response.model.toJson.Whole := by
  simp [toJson, Model.toJson, whole_object, whole_ofCode]

theorem one_lt_count_key {response : Response} {key : String}
    (h : takenKey? response.model = some key) :
    1 < ((layout.written layout.all response.write response.model.toMembers).map
      Prod.fst).count key := by
  obtain ⟨hkey, value, before, after, hextra, -⟩ := exists_of_takenKey?_eq_some h
  have hown : 0 < (layout.all.map layout.key).count key := List.count_pos_iff.mpr hkey
  have hkept : 0 < (response.model.toMembers.map Prod.fst).count key := by
    rw [List.count_pos_iff, Model.toMembers_append hextra]
    simp
  have hwritten : (layout.written layout.all response.write response.model.toMembers).map Prod.fst =
      layout.all.map layout.key ++ response.model.toMembers.map Prod.fst := by
    simp [Layout.written, Function.comp_def]
  rw [hwritten, List.count_append]
  omega

end Response

/-! ## Operations -/

namespace Operation

/-- Operations that are read, or made from a name, and get results of models that are read. -/
inductive Built : Operation → Prop where
  | named (name method path : String) : Built (named name method path)
  | read {operation : Operation} (obtained : NodeType.operation.Obtained operation) :
      Built operation
  | addResult {operation : Operation} {model : Model} (built : Built operation) (code : UInt16)
      (obtained : NodeType.model.Obtained model) :
      Built (operation.addResult (Response.ofModel code model))

def takenKey? (operation : Operation) : Option String :=
  operation.results.findSome? fun result => Response.takenKey? result.model

theorem Built.canonical {operation : Operation} (h : operation.Built) :
    Canonical { operation with results := [] } ∧
      ∀ result ∈ operation.results, result.model.Canonical := by
  induction h with
  | named name method path =>
      exact ⟨⟨List.forall_mem_nil _, nofun, List.forall_mem_nil _, .nil _⟩, List.forall_mem_nil _⟩
  | read obtained =>
      have hread : Canonical _ := obtained.canonical
      exact ⟨⟨hread.parameters, hread.parametersBody, List.forall_mem_nil _, hread.extra⟩,
        fun result hresult => (hread.results result hresult).model⟩
  | addResult _ code obtained ih =>
      refine ⟨ih.1, fun result hresult => ?_⟩
      rcases List.mem_append.mp hresult with hold | hnew
      · exact ih.2 result hold
      · rw [List.mem_singleton.mp hnew]
        exact obtained.canonical

theorem Built.canonical_of_takenKey?_eq_none {operation : Operation} (h : operation.Built)
    (hfree : operation.takenKey? = none) : operation.Canonical := by
  obtain ⟨hrest, hmodels⟩ := h.canonical
  refine ⟨hrest.parameters, hrest.parametersBody, fun result hresult => ?_, hrest.extra⟩
  exact Response.canonical_of_takenKey?_eq_none (hmodels result hresult)
    (List.findSome?_eq_none_iff.mp hfree result hresult)

theorem Built.refuses_results {operation : Operation} (h : operation.Built) {key : String}
    (hkey : operation.takenKey? = some key) :
    Refuses (fun route source => source.readList route Response.decode)
      (operation.write .results) (.content (.duplicateKey key)) := by
  obtain ⟨before, result, after, hresults, htaken, hbefore⟩ := List.findSome?_eq_some_iff.mp hkey
  have hread : ∀ item ∈ before.map Response.toJson,
      ∃ response, ReadsAs Response.decode item response := by
    refine List.forall_mem_map.mpr fun response hresponse => ⟨response, ?_⟩
    have hmodel := h.canonical.2 response (by simp [hresults, hresponse])
    exact (Response.canonical_of_takenKey?_eq_none hmodel (hbefore response hresponse)).readsAs
  rw [write, hresults, List.map_append, List.map_cons]
  exact refuses_readList hread (Response.refuses_toJson htaken)

theorem Built.refuses_toJson {operation : Operation} (h : operation.Built) {key : String}
    (hkey : operation.takenKey? = some key) :
    Refuses decode operation.toJson (.content (.duplicateKey key)) := by
  let before : List Field := [.service, .name, .summary, .description, .deprecated, .method, .path,
    .parameters, .parametersBody, .errors]
  have hset : ∀ field ∈ before,
      layout.Restores { operation with results := [] } field (operation.write field) := by
    intro field hfield
    have hrestores := h.canonical.1.restores field
    cases field with
    | results => exact absurd hfield (by decide)
    | _ => exact hrestores
  have hresults (node : Operation) :
      Refuses (fun route part => layout.set route .results part node) (operation.write .results)
        (.content (.duplicateKey key)) :=
    (h.refuses_results hkey).map fun results : List Response => ({ node with results } : Operation)
  have hwritten : operation.toJson = .object (layout.written
      (before ++ .results :: [.responseHeader]) operation.write operation.extra) := rfl
  have hread : Refuses (layout.read "Operation") operation.toJson
      (.content (.duplicateKey key)) := by
    rw [hwritten]
    exact layout.refuses_field hset (by decide) hresults
  intro route hadmits
  rw [decode_eq, hread route hadmits]
  rfl

end Operation

/-! ## Reading back -/

theorem Response.takenKey?_eq_none_iff_forall {model : Model} :
    takenKey? model = none ↔
      ∀ member ∈ model.extra, member.1 ≠ "in" ∧ member.1 ≠ "code" := by
  simp only [takenKey?_eq_none_iff, mem_keys_iff, not_or, ne_eq]

theorem Operation.takenKey?_eq_none_iff_forall {operation : Operation} :
    operation.takenKey? = none ↔ ∀ result ∈ operation.results, ∀ member ∈ result.model.extra,
      member.1 ≠ "in" ∧ member.1 ≠ "code" := by
  simp only [takenKey?, List.findSome?_eq_none_iff, Response.takenKey?_eq_none_iff_forall]

/--
The response that is made of a model is read again from its text exactly if the model keeps no
member under a key of the response, and so is an operation with such responses.  Otherwise the
written object of the response repeats the key, and the text is refused for that.
-/
theorem NodeType.reused_model_reads_back_iff :
    (∀ (node : Model) (code : UInt16) (style : Style), model.Obtained node →
      node.toJson.Whole → node.toJson.depth < 128 →
        let response := Response.ofModel code node
        let outcome := readTextWith Response.decode (response.toJson.print style)
        (outcome = .ok response ↔
          ∀ member ∈ node.extra, member.1 ≠ "in" ∧ member.1 ≠ "code") ∧
        ((∃ member ∈ node.extra, member.1 = "in" ∨ member.1 = "code") →
          ∃ members key fault, response.toJson = .object members ∧
            1 < (members.map Prod.fst).count key ∧ outcome = .error fault ∧
            fault.message = "duplicate field `" ++ key ++ "`")) ∧
    ∀ (operation : Operation) (style : Style), operation.Built → operation.toJson.Whole →
      operation.toJson.depth < 128 →
        let outcome := readTextWith Operation.decode (operation.toJson.print style)
        (outcome = .ok operation ↔ ∀ result ∈ operation.results, ∀ member ∈ result.model.extra,
          member.1 ≠ "in" ∧ member.1 ≠ "code") ∧
        ((∃ result ∈ operation.results, ∃ member ∈ result.model.extra,
            member.1 = "in" ∨ member.1 = "code") →
          ∃ key fault, (key = "in" ∨ key = "code") ∧ outcome = .error fault ∧
            fault.message = "duplicate field `" ++ key ++ "`") := by
  constructor
  · intro node code style hnode hwhole hdepth response outcome
    have hmodel : response.model.Canonical := hnode.canonical
    obtain ⟨hok, herror⟩ := readTextWith_print_of_taken (a := response)
      (Response.whole_toJson.mpr hwhole) (response.depth_toJson ▸ hdepth)
      (fun hfree => (Response.canonical_of_takenKey?_eq_none hmodel hfree).readsAs)
      (fun _ => Response.refuses_toJson) style
    refine ⟨hok.trans Response.takenKey?_eq_none_iff_forall, fun hclash => ?_⟩
    cases hkey : Response.takenKey? response.model with
    | none =>
        obtain ⟨member, hmember, hown⟩ := hclash
        have hfree := Response.takenKey?_eq_none_iff_forall.mp hkey member hmember
        exact absurd hown (not_or.mpr hfree)
    | some key =>
        exact ⟨_, key, _, rfl, Response.one_lt_count_key hkey, herror key hkey, rfl⟩
  · intro operation style hbuilt hwhole hdepth outcome
    obtain ⟨hok, herror⟩ := readTextWith_print_of_taken (a := operation) hwhole hdepth
      (fun hfree => (hbuilt.canonical_of_takenKey?_eq_none hfree).readsAs)
      (fun _ => hbuilt.refuses_toJson) style
    refine ⟨hok.trans Operation.takenKey?_eq_none_iff_forall, fun hclash => ?_⟩
    cases hkey : operation.takenKey? with
    | none =>
        obtain ⟨result, hresult, member, hmember, hown⟩ := hclash
        have hfree := Operation.takenKey?_eq_none_iff_forall.mp hkey result hresult member hmember
        exact absurd hown (not_or.mpr hfree)
    | some key =>
        obtain ⟨result, -, htaken⟩ := List.exists_of_findSome?_eq_some hkey
        have hown := (Response.exists_of_takenKey?_eq_some htaken).1
        exact ⟨key, _, Response.mem_keys_iff.mp hown, herror key hkey, rfl⟩

theorem NodeType.reused_model_refused_with_code_member :
    let plain : Model := { name := "CourierDepot" }
    let coded : Model := { name := "CourierDepot", extra := [("code", .text "C7")] }
    let operation := (Operation.named "list" "GET" "/depots").addResult (Response.ofModel 200 coded)
    model.Obtained plain ∧ plain.toJson.Whole ∧ plain.toJson.depth < 128 ∧
    readTextWith Response.decode ((Response.ofModel 200 plain).toJson.print .pretty) =
      .ok (Response.ofModel 200 plain) ∧
    model.Obtained coded ∧ coded.toJson.Whole ∧ coded.toJson.depth < 128 ∧
    readTextWith Response.decode ((Response.ofModel 200 coded).toJson.print .pretty) ≠
      .ok (Response.ofModel 200 coded) ∧
    operation.Built ∧ operation.toJson.Whole ∧ operation.toJson.depth < 128 ∧
    ∃ key fault, (key = "in" ∨ key = "code") ∧
      readTextWith Operation.decode (operation.toJson.print .compact) = .error fault ∧
      fault.message = "duplicate field `" ++ key ++ "`" := by
  intro plain coded operation
  have hplain : model.Obtained plain :=
    .memory (rfl : readJsonWith Model.decode (.object [("name", .text "CourierDepot")]) = _)
  have hcoded : model.Obtained coded :=
    .memory (rfl : readJsonWith Model.decode
      (.object [("code", .text "C7"), ("name", .text "CourierDepot")]) = _)
  have hplainwhole : plain.toJson.Whole := by
    simp [plain, Model.toJson, Model.toMembers, Model.linkToJson, Model.listToJson, whole_object,
      whole_array, ofText?, ofTexts]
  have hcodedwhole : coded.toJson.Whole := by
    simp [coded, Model.toJson, Model.toMembers, Model.linkToJson, Model.listToJson, whole_object,
      whole_array, ofText?, ofTexts]
  have hbuilt : operation.Built := .addResult (.named "list" "GET" "/depots") 200 hcoded
  have hresult : (Response.ofModel 200 coded).toJson.Whole := Response.whole_toJson.mpr hcodedwhole
  have hwhole : operation.toJson.Whole := by
    simp [operation, Operation.addResult, Operation.named, Operation.toJson, whole_object,
      whole_array, ofText?, hresult]
  have hdepth : operation.toJson.depth < 128 := by decide
  have hread := (reused_model_reads_back_iff.1 plain 200 .pretty hplain hplainwhole (by decide)).1
  have hrefused :=
    (reused_model_reads_back_iff.1 coded 200 .pretty hcoded hcodedwhole (by decide)).1
  refine ⟨hplain, hplainwhole, by decide, hread.mpr (List.forall_mem_nil _), hcoded, hcodedwhole,
    by decide, fun hok => ?_, hbuilt, hwhole, hdepth, ?_⟩
  · exact (hrefused.mp hok ("code", .text "C7") List.mem_cons_self).2 rfl
  · refine (reused_model_reads_back_iff.2 operation .compact hbuilt hwhole hdepth).2 ?_
    exact ⟨Response.ofModel 200 coded, List.mem_cons_self, ("code", .text "C7"),
      List.mem_cons_self, .inr rfl⟩

end Relabel
