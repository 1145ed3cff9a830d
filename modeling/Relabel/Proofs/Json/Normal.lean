import Mathlib.Data.List.Induction
import Mathlib.Data.String.Basic
import Relabel.Proofs.Json.Tree

/-!
# Normal forms

The members of a normal form stand in the order of their keys, each key once.  To bring a
document to its normal form twice is to do it once.  Where no key is repeated, the sorting only
permutes the members, and documents that are permutations of each other have one normal form.
-/

namespace Relabel.Json

/-- The members stand in the order of their keys, and no key is repeated. -/
def Sorted (members : List (String × Json)) : Prop :=
  members.Pairwise fun a b => a.1 < b.1

variable {key : String} {value : Json} {members : List (String × Json)}

/-! ## Sorting members -/

theorem mem_insert {member : String × Json} (h : member ∈ insert key value members) :
    member = (key, value) ∨ member ∈ members := by
  fun_induction insert key value members with
  | case1 => exact .inl (List.mem_singleton.mp h)
  | case2 v rest =>
      rcases List.mem_cons.mp h with hhead | hrest
      · exact .inl hhead
      · exact .inr (.tail _ hrest)
  | case3 k v rest hne hlt => exact List.mem_cons.mp h
  | case4 k v rest hne hlt ih =>
      rcases List.mem_cons.mp h with rfl | hrest
      · exact .inr (.head _)
      · exact (ih hrest).imp_right (.tail _)

theorem Sorted.insert (h : Sorted members) : Sorted (insert key value members) := by
  fun_induction Json.insert key value members with
  | case1 => exact List.pairwise_singleton _ _
  | case2 v rest =>
      obtain ⟨hhead, hrest⟩ := List.pairwise_cons.mp h
      exact List.pairwise_cons.mpr ⟨hhead, hrest⟩
  | case3 k v rest hne hlt =>
      obtain ⟨hhead, -⟩ := List.pairwise_cons.mp h
      refine List.pairwise_cons.mpr ⟨?_, h⟩
      rw [List.forall_mem_cons]
      exact ⟨hlt, fun member hmember => lt_trans hlt (hhead member hmember)⟩
  | case4 k v rest hne hlt ih =>
      obtain ⟨hhead, hrest⟩ := List.pairwise_cons.mp h
      refine List.pairwise_cons.mpr ⟨?_, ih hrest⟩
      intro member hmember
      rcases mem_insert hmember with rfl | hold
      · exact lt_of_le_of_ne (not_lt.mp hlt) (Ne.symm hne)
      · exact hhead member hold

theorem insert_perm (h : key ∉ members.map Prod.fst) :
    (insert key value members).Perm ((key, value) :: members) := by
  fun_induction Json.insert key value members with
  | case1 => exact .refl _
  | case2 v rest => simp at h
  | case3 k v rest hne hlt => exact .refl _
  | case4 k v rest hne hlt ih =>
      rw [List.map_cons, List.mem_cons, not_or] at h
      exact ((ih h.2).cons (k, v)).trans (.swap ..)

theorem insert_of_forall_lt (h : ∀ member ∈ members, member.1 < key) :
    insert key value members = members ++ [(key, value)] := by
  fun_induction Json.insert key value members with
  | case1 => rfl
  | case2 v rest => exact absurd (h _ (.head _)) (lt_irrefl _)
  | case3 k v rest hne hlt => exact absurd (h _ (.head _)) (lt_asymm hlt)
  | case4 k v rest hne hlt ih =>
      rw [ih fun member hmember => h member (.tail _ hmember)]
      rfl

theorem insert_map (f : Json → Json) :
    insert key (f value) (members.map (mapValue f)) =
      (insert key value members).map (mapValue f) := by
  fun_induction Json.insert key value members with
  | case1 => rfl
  | case2 v rest => simp [Json.insert, mapValue]
  | case3 k v rest hne hlt => simp [Json.insert, mapValue, hne, hlt]
  | case4 k v rest hne hlt ih => simp [Json.insert, mapValue, hne, hlt, ← ih]

theorem sortMembers_concat (member : String × Json) :
    sortMembers (members ++ [member]) = insert member.1 member.2 (sortMembers members) := by
  simp [sortMembers]

theorem sorted_sortMembers (members : List (String × Json)) : Sorted (sortMembers members) := by
  induction members using List.reverseRecOn with
  | nil => exact .nil
  | append_singleton members member ih =>
      rw [sortMembers_concat]
      exact ih.insert

theorem mem_of_mem_sortMembers {member : String × Json} (h : member ∈ sortMembers members) :
    member ∈ members := by
  induction members using List.reverseRecOn with
  | nil => exact h
  | append_singleton members last ih =>
      rw [sortMembers_concat] at h
      rcases mem_insert h with hlast | hold
      · exact List.mem_append_right _ (List.mem_singleton.mpr hlast)
      · exact List.mem_append_left _ (ih hold)

theorem sortMembers_perm (h : (members.map Prod.fst).Nodup) :
    (sortMembers members).Perm members := by
  induction members using List.reverseRecOn with
  | nil => exact .refl _
  | append_singleton members last ih =>
      rw [List.map_append, List.nodup_append] at h
      obtain ⟨hnodup, -, hdisjoint⟩ := h
      have hperm := ih hnodup
      have hnew : last.1 ∉ (sortMembers members).map Prod.fst := by
        intro hmem
        exact hdisjoint _ ((hperm.map _).mem_iff.mp hmem) last.1 (by simp) rfl
      rw [sortMembers_concat]
      exact ((insert_perm hnew).trans (hperm.cons last)).trans
        (List.perm_append_singleton last members).symm

theorem Sorted.sortMembers_eq (h : Sorted members) : sortMembers members = members := by
  induction members using List.reverseRecOn with
  | nil => rfl
  | append_singleton members last ih =>
      obtain ⟨hinit, -, hlast⟩ := List.pairwise_append.mp h
      rw [sortMembers_concat, ih hinit]
      exact insert_of_forall_lt fun member hmember => hlast member hmember last (by simp)

theorem sortMembers_sortMembers (members : List (String × Json)) :
    sortMembers (sortMembers members) = sortMembers members :=
  (sorted_sortMembers members).sortMembers_eq

theorem sortMembers_map (f : Json → Json) (members : List (String × Json)) :
    sortMembers (members.map (mapValue f)) = (sortMembers members).map (mapValue f) := by
  induction members using List.reverseRecOn with
  | nil => rfl
  | append_singleton members last ih =>
      rw [List.map_append, List.map_singleton, sortMembers_concat, sortMembers_concat, ih,
        ← insert_map]
      rfl

theorem Sorted.eq_of_perm {xs ys : List (String × Json)} (hxs : Sorted xs) (hys : Sorted ys)
    (h : xs.Perm ys) : xs = ys :=
  h.eq_of_pairwise (fun _ _ _ _ hab hba => absurd hab (lt_asymm hba)) hxs hys

theorem sortMembers_eq_of_perm {xs ys : List (String × Json)} (hnodup : (xs.map Prod.fst).Nodup)
    (h : xs.Perm ys) : sortMembers xs = sortMembers ys := by
  have hys : (ys.map Prod.fst).Nodup := (h.map _).nodup_iff.mp hnodup
  exact (sorted_sortMembers xs).eq_of_perm (sorted_sortMembers ys)
    (((sortMembers_perm hnodup).trans h).trans (sortMembers_perm hys).symm)

/-! ## Normal forms of documents -/

theorem normalize_array (items : List Json) :
    normalize (.array items) = .array (items.map normalize) := by
  rw [normalize, normalizeItems_eq]

theorem normalize_object (members : List (String × Json)) :
    normalize (.object members) = .object (sortMembers (members.map (mapValue normalize))) := by
  rw [normalize, normalizeMembers_eq]

theorem normalize_normalize (document : Json) :
    document.normalize.normalize = document.normalize := by
  induction document using induction_on_parts with
  | step document ih =>
      cases document with
      | array items =>
          rw [normalize_array, normalize_array, List.map_map]
          exact congrArg array (List.map_congr_left fun item hitem => ih item hitem)
      | object members =>
          rw [normalize_object, normalize_object, ← sortMembers_map, sortMembers_sortMembers,
            List.map_map]
          refine congrArg (object ∘ sortMembers) (List.map_congr_left fun member hmember => ?_)
          exact congrArg (member.1, ·) (ih member.2 (mem_parts_of_mem_members hmember))
      | _ => rfl

theorem mapValue_normalize_normalize (member : String × Json) :
    mapValue normalize (mapValue normalize member) = mapValue normalize member :=
  congrArg (member.1, ·) (normalize_normalize member.2)

theorem sortMembers_normalizeMembers_idem (members : List (String × Json)) :
    sortMembers (normalizeMembers (sortMembers (normalizeMembers members))) =
      sortMembers (normalizeMembers members) := by
  have hobject := normalize_normalize (.object members)
  simpa only [normalize, object.injEq] using hobject

theorem map_fst_mapValue {α β : Type} (f : α → β) (members : List (String × α)) :
    (members.map (mapValue f)).map Prod.fst = members.map Prod.fst := by
  rw [List.map_map]
  rfl

theorem Sorted.nodup_keys (h : Sorted members) : (members.map Prod.fst).Nodup :=
  (List.pairwise_map.mpr h).imp fun hlt => ne_of_lt hlt

theorem noRepeats_normalize (document : Json) : document.normalize.NoRepeats := by
  induction document using induction_on_parts with
  | step document ih =>
      cases document with
      | array items =>
          rw [normalize_array, noRepeats_array, List.forall_mem_map]
          exact ih
      | object members =>
          rw [normalize_object, noRepeats_object]
          refine ⟨(sorted_sortMembers _).nodup_keys, fun member hmember => ?_⟩
          obtain ⟨old, hold, rfl⟩ := List.mem_map.mp (mem_of_mem_sortMembers hmember)
          exact ih old.2 (mem_parts_of_mem_members hold)
      | _ =>
          intro members hmembers
          cases hmembers with
          | part hpart => cases hpart

theorem normalize_object_perm (h : (members.map Prod.fst).Nodup) :
    (sortMembers (members.map (mapValue normalize))).Perm (members.map (mapValue normalize)) :=
  sortMembers_perm (by rwa [map_fst_mapValue])

/-! ## Permuted members -/

/-- The second document is the first one with the members of some objects permuted. -/
inductive Permuted : Json → Json → Prop where
  | refl (document : Json) : Permuted document document
  | trans {a b c : Json} (first : Permuted a b) (second : Permuted b c) : Permuted a c
  | members {xs ys : List (String × Json)} (perm : xs.Perm ys) :
      Permuted (.object xs) (.object ys)
  | item {a b : Json} (before after : List Json) (inner : Permuted a b) :
      Permuted (.array (before ++ a :: after)) (.array (before ++ b :: after))
  | member {a b : Json} (before after : List (String × Json)) (key : String)
      (inner : Permuted a b) :
      Permuted (.object (before ++ (key, a) :: after)) (.object (before ++ (key, b) :: after))

theorem Permuted.noRepeats {a b : Json} (h : Permuted a b) (ha : a.NoRepeats) :
    b.NoRepeats := by
  induction h with
  | refl => exact ha
  | trans first second ihfirst ihsecond => exact ihsecond (ihfirst ha)
  | members perm =>
      rw [noRepeats_object] at ha ⊢
      exact ⟨(perm.map _).nodup_iff.mp ha.1, fun member hmember =>
        ha.2 member (perm.mem_iff.mpr hmember)⟩
  | item before after inner ih =>
      rw [noRepeats_array] at ha ⊢
      simp only [List.forall_mem_append, List.forall_mem_cons] at ha ⊢
      exact ⟨ha.1, ih ha.2.1, ha.2.2⟩
  | member before after key inner ih =>
      rw [noRepeats_object] at ha ⊢
      simp only [List.map_append, List.map_cons, List.forall_mem_append,
        List.forall_mem_cons] at ha ⊢
      exact ⟨ha.1, ha.2.1, ih ha.2.2.1, ha.2.2.2⟩

theorem Permuted.normalize_eq {a b : Json} (h : Permuted a b) (ha : a.NoRepeats) :
    a.normalize = b.normalize := by
  induction h with
  | refl => rfl
  | trans first second ihfirst ihsecond =>
      exact (ihfirst ha).trans (ihsecond (first.noRepeats ha))
  | members perm =>
      rw [normalize_object, normalize_object]
      congr 1
      refine sortMembers_eq_of_perm ?_ (perm.map _)
      rw [map_fst_mapValue]
      exact ha.nodup
  | item before after inner ih =>
      have ha := ih (noRepeats_array.mp ha _ (by simp))
      simp [normalize_array, ha]
  | member before after key inner ih =>
      have ha := ih ((noRepeats_object.mp ha).2 (key, _) (by simp))
      simp [normalize_object, mapValue, ha]

end Relabel.Json
