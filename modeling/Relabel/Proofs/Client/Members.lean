import Relabel.Proofs.Client.Layout

/-!
# The members of a document

A node is read from the members of an object.  Those that no key of its layout claims are left
over as they stand; of the keys that it claims, none may occur twice.  Without repeated keys a
node is the same whether it is read from a document or from its normal form.
-/

namespace Relabel

open Relabel.Json

namespace Layout

variable {φ α : Type} [DecidableEq φ] (layout : Layout φ α)

def unclaimed (members : List (String × Json)) : List (String × Json) :=
  members.filter fun member => member.1 ∉ layout.keys

theorem mem_unclaimed {members : List (String × Json)} {member : String × Json} :
    member ∈ layout.unclaimed members ↔ member ∈ members ∧ member.1 ∉ layout.keys := by
  simp [unclaimed]

theorem unclaimed_map (f : Json → Json) (members : List (String × Json)) :
    layout.unclaimed (members.map (mapValue f)) = (layout.unclaimed members).map (mapValue f) := by
  rw [unclaimed, List.filter_map]
  rfl

/-! ## Runs over members -/

section takeAll

variable {set : φ → Source → α → Except Fault α} {other : Source → Except Fault Json}
  {draft final : Draft φ α}

theorem others_takeAll {route : Route} {members : List (String × Json)}
    (h : draft.takeAll layout.declared set (Source.read route) (members.map Source.ofMember) =
      .ok final) :
    final.others = (layout.unclaimed members).reverse ++ draft.others := by
  induction members generalizing draft with
  | nil =>
      cases h
      rfl
  | cons member members ih =>
      obtain ⟨name, value⟩ := member
      obtain ⟨next, htake, hrest⟩ := layout.takeAll_cons_eq_ok_iff.mp h
      rw [ih hrest]
      rcases layout.take_eq_ok_iff.mp htake with
        ⟨field, node, hkey, -, -, rfl⟩ | ⟨name', value', hkey, hname, hvalue, rfl⟩
      · obtain rfl := Except.ok.inj hkey
        rw [unclaimed, unclaimed, List.filter_cons_of_neg (by simp [layout.key_mem_keys])]
      · obtain rfl := Except.ok.inj hkey
        obtain ⟨-, rfl⟩ := Route.gate_eq_ok_iff.mp ((Source.read_ofJson route value).symm.trans hvalue)
        rw [unclaimed, unclaimed, List.filter_cons_of_pos (by simpa using hname)]
        simp

def claimed (keys : List String) : List String :=
  keys.filter fun name => name ∈ layout.keys

theorem nodup_claimed_of_takeAll {members : List (String × Json)}
    (h : draft.takeAll layout.declared set other (members.map Source.ofMember) = .ok final) :
    (layout.claimed (members.map Prod.fst)).Nodup ∧
      ∀ name ∈ layout.claimed (members.map Prod.fst), name ∉ draft.seen.map layout.key := by
  induction members generalizing draft with
  | nil => simp [claimed]
  | cons member members ih =>
      obtain ⟨name, value⟩ := member
      obtain ⟨next, htake, hrest⟩ := layout.takeAll_cons_eq_ok_iff.mp h
      obtain ⟨hnodup, hunseen⟩ := ih hrest
      rcases layout.take_eq_ok_iff.mp htake with
        ⟨field, node, hkey, hseen, -, rfl⟩ | ⟨name', value', hkey, hname, -, rfl⟩
      · obtain rfl := Except.ok.inj hkey
        rw [List.map_cons, claimed, List.filter_cons_of_pos (by simp [layout.key_mem_keys])]
        simp only [List.map_cons, List.mem_cons, not_or] at hunseen
        constructor
        · refine List.nodup_cons.mpr ⟨?_, hnodup⟩
          intro hmem
          exact (hunseen _ hmem).1 rfl
        · rw [List.forall_mem_cons]
          constructor
          · rwa [List.mem_map_of_injective layout.key_injective]
          · intro name hname
            exact (hunseen name hname).2
      · obtain rfl := Except.ok.inj hkey
        rw [List.map_cons, claimed, List.filter_cons_of_neg (by simpa using hname)]
        exact ⟨hnodup, hunseen⟩

theorem exists_set_of_takeAll {field : φ} {source : Source} {route : Route}
    {members : List (Except SyntaxFault String × Source)}
    (hmem : (.ok (layout.key field), source) ∈ members)
    (h : draft.takeAll layout.declared (layout.set route) other members = .ok final) :
    ∃ part, layout.set route field source layout.empty = .ok part := by
  induction members generalizing draft with
  | nil => cases hmem
  | cons member members ih =>
      obtain ⟨next, htake, hrest⟩ := layout.takeAll_cons_eq_ok_iff.mp h
      rcases List.mem_cons.mp hmem with rfl | hmem
      · rcases layout.take_eq_ok_iff.mp htake with
          ⟨found, node, hkey, -, hnode, -⟩ | ⟨name, value, hkey, hname, -, -⟩
        · obtain rfl := layout.key_injective (Except.ok.inj hkey)
          obtain ⟨part, hpart, -⟩ := layout.set_eq_ok_iff.mp hnode
          exact ⟨part, hpart⟩
        · obtain rfl := Except.ok.inj hkey
          exact absurd (layout.key_mem_keys field) hname
      · exact ih hmem hrest

end takeAll

/-! ## Reading an object -/

def read (name : String) (route : Route) (source : Source) : Except Fault (Draft φ α) :=
  Draft.ofObject name layout.declared layout.set (fun route source => source.read route)
    layout.empty route source

theorem ofObject_eq_ok_iff {name : String} {other : Route → Source → Except Fault Json}
    {route : Route} {source : Source} {draft : Draft φ α} :
    Draft.ofObject name layout.declared layout.set other layout.empty route source = .ok draft ↔
      ∃ members, source = .object members .closed ∧ route.admits 1 ∧
        (Draft.start layout.empty).takeAll layout.declared (layout.set route.inner)
          (other route.inner) members = .ok draft := by
  cases source with
  | object members ending =>
      simp only [Draft.ofObject, Route.enter_eq, bind_eq_ok_iff, pure_eq_ok_iff,
        Route.gate_eq_ok_iff, Source.object.injEq]
      constructor
      · rintro ⟨inner, ⟨hadmits, rfl⟩, draft, htake, ⟨⟩, hending, rfl⟩
        exact ⟨members, ⟨rfl, Source.check_whenRead_object.mp hending⟩, hadmits, htake⟩
      · rintro ⟨members, ⟨rfl, rfl⟩, hadmits, htake⟩
        exact ⟨_, ⟨hadmits, rfl⟩, draft, htake, (), rfl, rfl⟩
  | number n => cases n <;> simp [Draft.ofObject, Source.refuse]
  | text s => cases s <;> simp [Draft.ofObject, Source.refuse]
  | _ => simp [Draft.ofObject, Source.refuse]

theorem rest_of_read {name : String} {route : Route} {members : List (String × Json)}
    {draft : Draft φ α}
    (h : layout.read name route (Source.ofJson (.object members)) = .ok draft) :
    draft.rest = layout.unclaimed members := by
  obtain ⟨_, hsource, -, htake⟩ := layout.ofObject_eq_ok_iff.mp h
  simp only [Source.ofJson, Source.ofMembers_eq, Source.object.injEq, and_true] at hsource
  rw [← hsource] at htake
  rw [Draft.rest, layout.others_takeAll htake, Draft.start, List.append_nil, List.reverse_reverse]

/-! ## Normal forms -/

theorem carries_of_toOption_eq {route route' : Route} {other other' : Source → Except Fault Json}
    {member member' : Except SyntaxFault String × Source} (hkey : member'.1 = member.1)
    (hset : ∀ field, member.1 = .ok (layout.key field) →
      (layout.set route field member.2 layout.empty).toOption =
        (layout.set route' field member'.2 layout.empty).toOption)
    (hother : ∃ value, other' member'.2 = .ok value) :
    layout.Carries (layout.set route) (layout.set route') other other' member member' where
  key := hkey
  set := by
    intro field node final hfield hnode
    obtain ⟨part, hpart, hfinal⟩ := layout.set_eq_ok_iff.mp hnode
    have hpart' := (toOption_eq_iff.mp (hset field hfield) part).mp hpart
    exact layout.set_eq_ok_iff.mpr ⟨part, hpart', hfinal⟩
  other := fun _ _ _ _ _ => hother

section normal

variable {members : List (String × Json)} {route : Route}
  {other other' : Source → Except Fault Json}

/-- The declared members are read to the same effect in the document and in its normal form. -/
def Agrees (route : Route) (members : List (String × Json)) : Prop :=
  ∀ member ∈ members, ∀ field, member.1 = layout.key field →
    (layout.set route field (Source.ofJson member.2) layout.empty).toOption =
      (layout.set .memory field (Source.ofJson member.2.normalize) layout.empty).toOption

theorem takeAll_normal {draft final : Draft φ α} (hnodup : (members.map Prod.fst).Nodup)
    (hagrees : layout.Agrees route members)
    (hother : ∀ document, ∃ value, other' (Source.ofJson document) = .ok value)
    (h : draft.takeAll layout.declared (layout.set route) other (members.map Source.ofMember) =
      .ok final) :
    ∃ final', draft.takeAll layout.declared (layout.set .memory) other'
        ((sortMembers (members.map (mapValue Json.normalize))).map Source.ofMember) = .ok final' ∧
      final.Alike final' := by
  have hcarries : List.Forall₂ (layout.Carries (layout.set route) (layout.set .memory) other other')
      (members.map Source.ofMember)
      ((members.map (mapValue Json.normalize)).map Source.ofMember) := by
    rw [List.map_map, List.forall₂_map_left_iff, List.forall₂_map_right_iff, List.forall₂_same]
    intro member hmember
    refine layout.carries_of_toOption_eq rfl ?_ (hother _)
    intro field hfield
    exact hagrees member hmember field (Except.ok.inj hfield)
  obtain ⟨middle, hmiddle, halike⟩ := layout.takeAll_carries hcarries (.refl draft) h
  have hperm := ((normalize_object_perm hnodup).map Source.ofMember).symm
  obtain ⟨final', hfinal', halike'⟩ := layout.takeAll_perm hperm hmiddle
  exact ⟨final', hfinal', halike.trans halike'⟩

theorem takeAll_of_normal {draft final : Draft φ α} (hnodup : (members.map Prod.fst).Nodup)
    (hagrees : layout.Agrees route members)
    (hother : ∀ member ∈ members, ∃ value, other (Source.ofJson member.2) = .ok value)
    (h : draft.takeAll layout.declared (layout.set .memory) other'
      ((sortMembers (members.map (mapValue Json.normalize))).map Source.ofMember) = .ok final) :
    ∃ final', draft.takeAll layout.declared (layout.set route) other
        (members.map Source.ofMember) = .ok final' ∧
      final.Alike final' := by
  have hcarries : List.Forall₂ (layout.Carries (layout.set .memory) (layout.set route) other' other)
      ((members.map (mapValue Json.normalize)).map Source.ofMember)
      (members.map Source.ofMember) := by
    rw [List.map_map, List.forall₂_map_left_iff, List.forall₂_map_right_iff, List.forall₂_same]
    intro member hmember
    refine layout.carries_of_toOption_eq rfl ?_ (hother member hmember)
    intro field hfield
    exact (hagrees member hmember field (Except.ok.inj hfield)).symm
  have hperm := (normalize_object_perm hnodup).map Source.ofMember
  obtain ⟨middle, hmiddle, halike⟩ := layout.takeAll_perm hperm h
  obtain ⟨final', hfinal', halike'⟩ := layout.takeAll_carries hcarries (.refl draft) hmiddle
  exact ⟨final', hfinal', halike.trans halike'⟩

variable {name : String} {others : Route → Source → Except Fault Json}

theorem ofObject_document_eq_ok_iff {draft : Draft φ α} :
    Draft.ofObject name layout.declared layout.set others layout.empty route
        (Source.ofJson (.object members)) = .ok draft ↔
      route.admits 1 ∧
        (Draft.start layout.empty).takeAll layout.declared (layout.set route.inner)
          (others route.inner) (members.map Source.ofMember) = .ok draft := by
  rw [ofObject_eq_ok_iff, Source.ofJson, Source.ofMembers_eq]
  constructor
  · rintro ⟨_, hsource, hadmits, htake⟩
    cases hsource
    exact ⟨hadmits, htake⟩
  · rintro ⟨hadmits, htake⟩
    exact ⟨_, rfl, hadmits, htake⟩

theorem ofObject_normalize (hnodup : (members.map Prod.fst).Nodup) (hadmits : route.admits 1)
    (hagrees : layout.Agrees route.inner members)
    (hothers : ∀ member ∈ members,
      ∃ value, others route.inner (Source.ofJson member.2) = .ok value)
    (hothers' : ∀ document, ∃ value, others .memory (Source.ofJson document) = .ok value) :
    (Draft.ofObject name layout.declared layout.set others layout.empty route
        (Source.ofJson (.object members))).toOption.map Draft.node =
      (Draft.ofObject name layout.declared layout.set others layout.empty .memory
        (Source.ofJson (Json.normalize (.object members)))).toOption.map Draft.node := by
  rw [normalize_object]
  refine toOption_map_eq ?_ ?_ <;> simp only [ofObject_document_eq_ok_iff]
  · rintro draft ⟨-, htake⟩
    obtain ⟨draft', htake', halike⟩ := layout.takeAll_normal hnodup hagrees hothers' htake
    exact ⟨draft', ⟨rfl, htake'⟩, halike.node⟩
  · rintro draft' ⟨-, htake'⟩
    obtain ⟨draft, htake, halike⟩ := layout.takeAll_of_normal hnodup hagrees hothers htake'
    exact ⟨draft, ⟨hadmits, htake⟩, halike.node.symm⟩

theorem sortMembers_unclaimed (hnodup : (members.map Prod.fst).Nodup) :
    sortMembers (normalizeMembers
        (layout.unclaimed (sortMembers (members.map (mapValue Json.normalize))))) =
      sortMembers (normalizeMembers (layout.unclaimed members)) := by
  have hperm : (layout.unclaimed (sortMembers (members.map (mapValue Json.normalize)))).Perm
      ((layout.unclaimed members).map (mapValue Json.normalize)) := by
    rw [← unclaimed_map]
    exact (normalize_object_perm hnodup).filter _
  have hkeys : ((layout.unclaimed members).map Prod.fst).Nodup :=
    hnodup.sublist (List.filter_sublist.map _)
  rw [normalizeMembers_eq, normalizeMembers_eq]
  symm
  refine sortMembers_eq_of_perm (by rwa [map_fst_mapValue]) ?_
  have hmap := (hperm.map (mapValue Json.normalize)).symm
  simpa [List.map_map, Function.comp_def, mapValue_normalize_normalize] using hmap

theorem read_normalize (hnodup : (members.map Prod.fst).Nodup)
    (hadmits : route.admits (object members).depth)
    (hagrees : layout.Agrees route.inner members) :
    (layout.read name route (Source.ofJson (.object members))).toOption.map
        (fun draft => (draft.node, draft.extra)) =
      (layout.read name .memory (Source.ofJson (Json.normalize (.object members)))).toOption.map
        (fun draft => (draft.node, draft.extra)) := by
  obtain ⟨hroute, hinner⟩ := Route.admits_depth_object.mp hadmits
  have hreads : ∀ member ∈ members,
      ∃ value, (Source.ofJson member.2).read route.inner = .ok value := by
    intro member hmember
    rw [Source.read_ofJson]
    exact ⟨_, Route.gate_of_admits (hinner member hmember) _⟩
  have hmemory : ∀ document, ∃ value, (Source.ofJson document).read .memory = .ok value :=
    fun document => ⟨document, Source.read_ofJson .memory document⟩
  have hnode : (layout.read name route (Source.ofJson (.object members))).toOption.map Draft.node =
      (layout.read name .memory (Source.ofJson (Json.normalize (.object members)))).toOption.map
        Draft.node :=
    layout.ofObject_normalize hnodup hroute hagrees hreads hmemory
  let extra := sortMembers (normalizeMembers (layout.unclaimed members))
  have hextra : ∀ draft, layout.read name route (Source.ofJson (.object members)) = .ok draft →
      draft.extra = extra := by
    intro draft hdraft
    rw [Draft.extra, layout.rest_of_read hdraft]
  have hextra' : ∀ draft,
      layout.read name .memory (Source.ofJson (Json.normalize (.object members))) = .ok draft →
      draft.extra = extra := by
    intro draft hdraft
    rw [normalize_object] at hdraft
    rw [Draft.extra, layout.rest_of_read hdraft, layout.sortMembers_unclaimed hnodup]
  calc _ = ((layout.read name route (Source.ofJson (.object members))).toOption.map
            Draft.node).map (·, extra) := by
        rw [Option.map_map]
        exact toOption_map_congr fun draft h => congrArg (draft.node, ·) (hextra draft h)
    _ = ((layout.read name .memory (Source.ofJson (Json.normalize (.object members)))).toOption.map
            Draft.node).map (·, extra) := by rw [hnode]
    _ = _ := by
        rw [Option.map_map]
        exact (toOption_map_congr fun draft h => congrArg (draft.node, ·) (hextra' draft h)).symm

end normal

end Layout

end Relabel
