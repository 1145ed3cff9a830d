import Relabel.Proofs.Client.Acceptance
import Relabel.Proofs.Client.Rewritten
import Relabel.Proofs.Client.Written

/-!
# Nodes assembled from members

A node is made of what the members of its object set, one part for each declared key.  So what is
written for a declared key depends on the value of that key alone, and with the members that are
left over this tells what is written for the whole node.
-/

namespace Relabel

open Relabel.Json

namespace Layout

variable {φ α : Type} [DecidableEq φ] (layout : Layout φ α)

/-! ## The parts of a node -/

structure Lawful : Prop where
  copy_copy : ∀ field a b node,
    layout.copy field a (layout.copy field b node) = layout.copy field a node
  copy_self : ∀ field node, layout.copy field node node = node

/-- The part of every declared key is set by its member, or else as in the empty node. -/
structure Assembles (route : Route) (members : List (String × Json)) (node : α) : Prop where
  given : ∀ field value, (layout.key field, value) ∈ members →
    ∃ part, layout.set route field (Source.ofJson value) layout.empty = .ok part ∧
      layout.copy field part node = node
  missing : ∀ field, layout.key field ∉ members.map Prod.fst →
    layout.copy field layout.empty node = node

variable {layout} {route : Route} {other : Source → Except Fault Json} {draft final : Draft φ α}
  {members : List (String × Json)} {field : φ}

theorem copy_of_takeAll (hkey : layout.key field ∉ members.map Prod.fst) {part : α}
    (hdraft : layout.copy field part draft.node = draft.node)
    (h : draft.takeAll layout.declared (layout.set route) other (members.map Source.ofMember) =
      .ok final) : layout.copy field part final.node = final.node := by
  refine layout.takeAll_induction (P := fun draft => layout.copy field part draft.node = draft.node)
    ?_ (fun _ _ _ _ _ hdraft _ _ _ => hdraft) hdraft h
  intro member hmember draft found node hdraft hfound _ hnode
  obtain ⟨set, -, rfl⟩ := layout.set_eq_ok_iff.mp hnode
  have hne : field ≠ found := by
    rintro rfl
    obtain ⟨⟨key, value⟩, hin, rfl⟩ := List.mem_map.mp hmember
    obtain rfl := Except.ok.inj hfound
    exact hkey (List.mem_map_of_mem hin)
  rw [layout.copy_comm hne, hdraft]

theorem Lawful.exists_copy_of_takeAll (hlawful : layout.Lawful)
    (hnodup : (members.map Prod.fst).Nodup) {value : Json}
    (hmember : (layout.key field, value) ∈ members)
    (h : draft.takeAll layout.declared (layout.set route) other (members.map Source.ofMember) =
      .ok final) :
    ∃ part, layout.set route field (Source.ofJson value) layout.empty = .ok part ∧
      layout.copy field part final.node = final.node := by
  induction members generalizing draft with
  | nil => cases hmember
  | cons member members ih =>
      obtain ⟨next, htake, hrest⟩ := layout.takeAll_cons_eq_ok_iff.mp h
      obtain ⟨hnew, hnodup⟩ := List.nodup_cons.mp hnodup
      rcases List.mem_cons.mp hmember with rfl | hmember
      · rcases layout.take_eq_ok_iff.mp htake with
          ⟨found, node, hkey, -, hnode, rfl⟩ | ⟨name, other, hkey, hname, -, -⟩
        · obtain rfl := layout.key_injective (Except.ok.inj hkey)
          obtain ⟨part, hpart, rfl⟩ := layout.set_eq_ok_iff.mp hnode
          exact ⟨part, hpart, copy_of_takeAll hnew (hlawful.copy_copy ..) hrest⟩
        · obtain rfl := Except.ok.inj hkey
          exact absurd (layout.key_mem_keys field) hname
      · exact ih hnodup hmember hrest

theorem Lawful.assembles (hlawful : layout.Lawful) {name : String}
    {others : Route → Source → Except Fault Json} (hnodup : (members.map Prod.fst).Nodup)
    (h : Draft.ofObject name layout.declared layout.set others layout.empty route
      (Source.ofJson (.object members)) = .ok draft) :
    layout.Assembles route.inner members draft.node := by
  obtain ⟨-, htake⟩ := layout.ofObject_document_eq_ok_iff.mp h
  exact ⟨fun field value hmember => hlawful.exists_copy_of_takeAll hnodup hmember htake,
    fun field hkey => copy_of_takeAll hkey (hlawful.copy_self field layout.empty) htake⟩

/-! ## The members of a node -/

variable {write : φ → Json} {rest : List (String × Json)}

theorem mem_written_of_not_mem_keys {member : String × Json} (hkey : member.1 ∉ layout.keys) :
    member ∈ layout.written layout.all write rest ↔ member ∈ rest := by
  rw [written, List.mem_append, or_iff_right]
  intro hmember
  obtain ⟨field, -, rfl⟩ := List.mem_map.mp hmember
  exact hkey (layout.key_mem_keys field)

theorem mem_written_key (field : φ) (hrest : ∀ member ∈ rest, member.1 ∉ layout.keys)
    {value : Json} :
    (layout.key field, value) ∈ layout.written layout.all write rest ↔ value = write field := by
  rw [written, List.mem_append, or_iff_left fun h => hrest _ h (layout.key_mem_keys field)]
  simp [layout.key_injective.eq_iff, layout.mem_all, eq_comm]

theorem map_fst_written :
    (layout.written layout.all write rest).map Prod.fst = layout.keys ++ rest.map Prod.fst := by
  simp [written, keys]

end Layout

theorem completed_nil {keeps : Prop} (hkeeps : ¬ keeps) (members : List (String × Json)) :
    Completed [] keeps members [] where
  distinct := List.nodup_nil
  declared := List.forall_mem_nil _
  missing := List.forall_mem_nil _
  others := by simp [hkeeps]

theorem completed_normal {keeps : Prop} (hkeeps : keeps) {members : List (String × Json)}
    (h : (members.map Prod.fst).Nodup) :
    Completed [] keeps members (sortMembers (normalizeMembers members)) where
  distinct := (sorted_sortMembers _).nodup_keys
  declared := List.forall_mem_nil _
  missing := List.forall_mem_nil _
  others := by
    intro key value _
    rw [normalizeMembers_eq, (normalize_object_perm h).mem_iff, List.mem_map]
    constructor
    · rintro ⟨member, hmember, heq⟩
      cases heq
      exact ⟨hkeeps, member.2, hmember, rfl⟩
    · rintro ⟨-, old, hold, rfl⟩
      exact ⟨_, hold, rfl⟩

namespace Layout

variable {φ α : Type} [DecidableEq φ] {layout : Layout φ α} {grammar : φ → Kind}
  {fields : List (String × Kind)} {keeps : Prop} {members rest : List (String × Json)}
  {write : φ → Json} {rules : Rules}

theorem undeclared_of_completed (hkeys : ∀ key ∈ fields.map Prod.fst, key ∉ layout.keys)
    (h : Completed fields keeps (layout.unclaimed members) rest) :
    ∀ member ∈ rest, member.1 ∉ layout.keys := by
  rintro ⟨key, value⟩ hmember
  by_cases hkey : key ∈ fields.map Prod.fst
  · exact hkeys key hkey
  · obtain ⟨-, old, hold, -⟩ := (h.others key value hkey).mp hmember
    exact (layout.mem_unclaimed.mp hold).2

theorem completed_written (hkeys : ∀ key ∈ fields.map Prod.fst, key ∉ layout.keys)
    (hrest : Completed fields keeps (layout.unclaimed members) rest)
    (hmissing : ∀ field, layout.key field ∉ members.map Prod.fst →
      write field = (grammar field).missing) :
    Completed (layout.fields grammar ++ fields) keeps members
      (layout.written layout.all write rest) := by
  have hundeclared := undeclared_of_completed hkeys hrest
  refine ⟨?_, ?_, ?_, ?_⟩
  · rw [map_fst_written, List.nodup_append]
    refine ⟨layout.nodup_keys, hrest.distinct, ?_⟩
    rintro key hkey _ hmem rfl
    obtain ⟨member, hmember, rfl⟩ := List.mem_map.mp hmem
    exact hundeclared member hmember hkey
  · rintro ⟨key, kind⟩ hfield
    rw [map_fst_written, List.mem_append]
    rcases List.mem_append.mp hfield with hown | hother
    · obtain ⟨field, rfl, rfl⟩ := layout.mem_fields.mp hown
      exact .inl (layout.key_mem_keys field)
    · exact .inr (hrest.declared _ hother)
  · rintro ⟨key, kind⟩ hfield hgiven
    rcases List.mem_append.mp hfield with hown | hother
    · obtain ⟨field, rfl, rfl⟩ := layout.mem_fields.mp hown
      rw [mem_written_key _ hundeclared]
      exact (hmissing field hgiven).symm
    · rw [mem_written_of_not_mem_keys (hkeys _ (List.mem_map_of_mem hother))]
      refine hrest.missing _ hother fun hmem => hgiven ?_
      exact (List.filter_sublist.map Prod.fst).subset hmem
  · intro key value hkey
    rw [List.map_append, layout.map_fst_fields, List.mem_append, not_or] at hkey
    rw [mem_written_of_not_mem_keys hkey.1, hrest.others key value hkey.2]
    simp [layout.mem_unclaimed, hkey.1]

theorem values_written (hkeys : ∀ key ∈ fields.map Prod.fst, key ∉ layout.keys)
    (hundeclared : ∀ member ∈ rest, member.1 ∉ layout.keys)
    (hrest : Rewritten.Values rules fields (layout.unclaimed members) rest)
    (hvalues : ∀ field value, layout.key field ≠ "name" → (layout.key field, value) ∈ members →
      Rewritten rules (grammar field) value (write field)) :
    Rewritten.Values rules (layout.fields grammar ++ fields) members
      (layout.written layout.all write rest) := by
  intro key kind old new hfield hname hold hnew
  rcases List.mem_append.mp hfield with hown | hother
  · obtain ⟨field, rfl, rfl⟩ := layout.mem_fields.mp hown
    rw [mem_written_key _ hundeclared] at hnew
    subst hnew
    exact hvalues field old hname hold
  · have hkey := hkeys _ (List.mem_map_of_mem hother)
    rw [mem_written_of_not_mem_keys hkey] at hnew
    exact hrest key kind old new hother hname (layout.mem_unclaimed.mpr ⟨hold, hkey⟩) hnew

/-! ## Whole nodes -/

section node

variable {β : Type} {type : NodeType} {name : String} {reader : Route → Source → Except Fault β}
  {json : β → Json} {write : α → φ → Json} {document : Json}

/-- How nodes of a layout are written for declared keys: the name apart, by the part of that key. -/
structure Writes (layout : Layout φ α) (grammar : φ → Kind) (write : α → φ → Json) : Prop where
  own : ∀ field source node, layout.key field ≠ "name" →
    write (layout.copy field source node) field = write source field
  missing : ∀ field node, layout.copy field layout.empty node = node →
    write node field = (grammar field).missing

def WritesName (layout : Layout φ α) (rules : Rules) (type : NodeType) (write : α → φ → Json) :
    Prop :=
  ∀ route members node rest field value, layout.Assembles route members node →
    (∀ member ∈ rest, member.1 ∉ layout.keys) → layout.key field = "name" →
    (layout.key field, value) ∈ members →
    ∃ old new, value = .text old ∧ write node field = .text new ∧
      type.Renames rules (layout.written layout.all (write node) rest) old new

theorem writesName_of_text (named : φ) (hnamed : layout.key named = "name") (put : String → α)
    (get : α → String)
    (hset : ∀ route source,
      layout.set route named source layout.empty = do return put (← source.readText))
    (hget : ∀ s node, get (layout.copy named (put s) node) = s) (new : α → String)
    (hwrite : ∀ node, write node named = .text (new node))
    (hrenames : ∀ node rest, (∀ member ∈ rest, member.1 ∉ layout.keys) →
      type.Renames rules (layout.written layout.all (write node) rest) (get node) (new node)) :
    layout.WritesName rules type write := by
  intro route members node rest field value hassembles hrest hfield hmember
  obtain rfl : field = named := layout.key_injective (hfield.trans hnamed.symm)
  obtain ⟨part, hpart, hcopy⟩ := hassembles.given field value hmember
  simp only [hset, bind_eq_ok_iff, pure_eq_ok_iff] at hpart
  obtain ⟨s, hs, rfl⟩ := hpart
  have hs' : get node = s := by rw [← hcopy, hget]
  refine ⟨get node, new node, ?_, hwrite node, hrenames node rest hrest⟩
  rw [readText_ofJson_eq_ok hs, hs']

theorem rewritten_written {route : Route} {node : α} {rest : List (String × Json)}
    (hfields : type.fields = layout.fields grammar ++ fields)
    (hkeys : ∀ key ∈ fields.map Prod.fst, key ∉ layout.keys)
    (hassembles : layout.Assembles route members node) (hwrites : Writes layout grammar write)
    (hrest : Completed fields (type ≠ .error) (layout.unclaimed members) rest)
    (hvalues : Rewritten.Values (type.rulesWithin rules) fields (layout.unclaimed members) rest)
    (hset : ∀ field, layout.key field ≠ "name" → ∀ part ∈ (object members).parts,
      Rewrites (type.rulesWithin rules)
        (fun route source => layout.set route field source layout.empty) (grammar field)
        (write · field) part)
    (hname : "name" ∈ type.fields.map Prod.fst → ∀ value, ("name", value) ∈ members →
      ∃ old new, value = .text old ∧
        ("name", .text new) ∈ layout.written layout.all (write node) rest ∧
        type.Renames rules (layout.written layout.all (write node) rest) old new) :
    Rewritten rules (.node type) (.object members)
      (.object (layout.written layout.all (write node) rest)) := by
  have hundeclared := undeclared_of_completed hkeys hrest
  refine .node ?_ ?_ hname <;> rw [hfields]
  · exact completed_written hkeys hrest fun field hfield =>
      hwrites.missing field node (hassembles.missing field hfield)
  · refine values_written hkeys hundeclared hvalues fun field value hfield hmember => ?_
    obtain ⟨part, hpart, hcopy⟩ := hassembles.given field value hmember
    rw [← hcopy, hwrites.own field part node hfield]
    exact hset field hfield value (mem_parts_of_mem_members hmember) route part hpart

theorem Lawful.rewrites_of_read (hlawful : layout.Lawful) (htype : type ≠ .error)
    (hfields : type.fields = layout.fields grammar) (finish : α → List (String × Json) → β)
    (hreader : ∀ route source, reader route source =
      (fun draft => finish draft.node draft.extra) <$> layout.read name route source)
    (hjson : ∀ node extra,
      json (finish node extra) = .object (layout.written layout.all (write node) extra))
    (hwrites : Writes layout grammar write) (hname : WritesName layout rules type write)
    (h : document.NoRepeats)
    (hset : ∀ field, layout.key field ≠ "name" → ∀ part ∈ document.parts,
      Rewrites (type.rulesWithin rules)
        (fun route source => layout.set route field source layout.empty) (grammar field)
        (write · field) part) :
    Rewrites rules reader (.node type) json document := by
  intro route b hread
  rw [hreader, map_eq_ok_iff] at hread
  obtain ⟨draft, hdraft, rfl⟩ := hread
  obtain ⟨members, rfl⟩ := layout.eq_object_of_read hdraft
  have hassembles := hlawful.assembles h.nodup hdraft
  have hextra : Completed [] (type ≠ .error) (layout.unclaimed members) draft.extra := by
    rw [Draft.extra, layout.rest_of_read hdraft]
    exact completed_normal htype (layout.noRepeats_unclaimed h).nodup
  have hnone : ∀ key ∈ ([] : List (String × Kind)).map Prod.fst, key ∉ layout.keys := by simp
  have hundeclared := undeclared_of_completed hnone hextra
  rw [hjson]
  refine rewritten_written (by rw [hfields, List.append_nil]) hnone hassembles hwrites hextra
    (Rewritten.values_nil _ _ _) hset ?_
  intro hkey value hmember
  rw [hfields, layout.map_fst_fields] at hkey
  obtain ⟨field, -, hfield⟩ := List.mem_map.mp hkey
  rw [← hfield] at hmember ⊢
  obtain ⟨old, new, hold, hnew, hrenames⟩ :=
    hname _ _ _ _ field value hassembles hundeclared hfield hmember
  exact ⟨old, new, hold, (mem_written_key _ hundeclared).mpr hnew.symm, hrenames⟩

end node

end Layout

end Relabel
