import Mathlib.Data.List.Nodup
import Relabel.Client.Draft
import Relabel.Client.Tag
import Relabel.Proofs.Json.Depth
import Relabel.Proofs.Json.Normal

/-!
# Layouts of nodes

A layout tells how the declared members of an object make up a node: every declared key sets a
part of its own.  So the order of the members does not matter, a declared key that occurs twice
is refused, and the other members are kept as they stand.
-/

namespace Relabel

open Relabel.Json

/-! ## Tags -/

theorem lookup_tagged_eq_some {α : Type} {text : α → String} {values : List α} {tag : String}
    {value : α} (h : (tagged text values).lookup tag = some value) :
    value ∈ values ∧ tag = text value := by
  induction values with
  | nil => cases h
  | cons first values ih =>
      rw [tagged, List.map_cons, List.lookup_cons] at h
      split at h
      · next heq =>
          cases h
          exact ⟨.head _, by simpa using heq⟩
      · obtain ⟨hmem, htag⟩ := ih h
        exact ⟨.tail _ hmem, htag⟩

theorem lookup_tagged_eq_none {α : Type} {text : α → String} {values : List α} {tag : String} :
    (tagged text values).lookup tag = none ↔ tag ∉ values.map text := by
  induction values with
  | nil => simp [tagged]
  | cons first values ih =>
      rw [tagged, List.map_cons, List.lookup_cons, List.map_cons, List.mem_cons, not_or]
      split
      · next heq => simp_all
      · next heq => simp_all [tagged]

structure Draft.Alike {φ α : Type} (a b : Draft φ α) : Prop where
  node : a.node = b.node
  seen : a.seen.Perm b.seen

theorem Draft.Alike.refl {φ α : Type} (draft : Draft φ α) : Draft.Alike draft draft :=
  ⟨rfl, .refl _⟩

theorem Draft.Alike.trans {φ α : Type} {a b c : Draft φ α} (hab : a.Alike b) (hbc : b.Alike c) :
    a.Alike c :=
  ⟨hab.node.trans hbc.node, hab.seen.trans hbc.seen⟩

/-- The declared keys of a node, and how each one sets its part. `copy field a b` is `b` with the
part of `a` that the key sets. -/
structure Layout (φ α : Type) [DecidableEq φ] where
  key : φ → String
  all : List φ
  set : Route → φ → Source → α → Except Fault α
  empty : α
  copy : φ → α → α → α
  nodup_keys : (all.map key).Nodup
  mem_all : ∀ field, field ∈ all
  set_eq : ∀ route field source node,
    set route field source node = (copy field · node) <$> set route field source empty
  copy_comm : ∀ {field other}, field ≠ other → ∀ a b node,
    copy field a (copy other b node) = copy other b (copy field a node)

namespace Layout

variable {φ α : Type} [DecidableEq φ] (layout : Layout φ α)

def declared : List (String × φ) := tagged layout.key layout.all

def keys : List String := layout.all.map layout.key

theorem key_mem_keys (field : φ) : layout.key field ∈ layout.keys :=
  List.mem_map_of_mem (layout.mem_all field)

theorem key_injective : Function.Injective layout.key := fun _ _ h =>
  List.inj_on_of_nodup_map layout.nodup_keys (layout.mem_all _) (layout.mem_all _) h

theorem lookup_declared_eq_some {name : String} {field : φ} :
    layout.declared.lookup name = some field ↔ name = layout.key field := by
  constructor
  · exact fun h => (lookup_tagged_eq_some h).2
  · rintro rfl
    cases hlookup : layout.declared.lookup (layout.key field) with
    | none => exact absurd (layout.key_mem_keys field) (lookup_tagged_eq_none.mp hlookup)
    | some found =>
        have hfound := (lookup_tagged_eq_some hlookup).2
        rw [layout.key_injective hfound]

theorem lookup_declared_eq_none {name : String} :
    layout.declared.lookup name = none ↔ name ∉ layout.keys :=
  lookup_tagged_eq_none

/-! ## One member -/

section take

variable {draft next : Draft φ α} {set : φ → α → Except Fault α}
  {other : Unit → Except Fault Json}

theorem take_key {field : φ} (hseen : field ∉ draft.seen) :
    draft.take layout.declared (.ok (layout.key field)) set other =
      (fun node => { draft with node, seen := field :: draft.seen }) <$> set field draft.node := by
  have hlookup := layout.lookup_declared_eq_some.mpr (rfl : layout.key field = _)
  have hcontains : draft.seen.contains field = false := by simpa using hseen
  simp only [Draft.take, readable, ok_bind, hlookup, hcontains]
  exact (map_eq_pure_bind ..).symm

theorem take_seen {field : φ} (hseen : field ∈ draft.seen) :
    draft.take layout.declared (.ok (layout.key field)) set other =
      .error (.content (.duplicateKey (layout.key field))) := by
  have hlookup := layout.lookup_declared_eq_some.mpr (rfl : layout.key field = _)
  have hcontains : draft.seen.contains field = true := by simpa using hseen
  simp only [Draft.take, readable, ok_bind, hlookup, hcontains]
  rfl

theorem take_other {name : String} (hname : name ∉ layout.keys) :
    draft.take layout.declared (.ok name) set other =
      (fun value => { draft with others := (name, value) :: draft.others }) <$> other () := by
  have hlookup := layout.lookup_declared_eq_none.mpr hname
  simp only [Draft.take, readable, ok_bind, hlookup]
  exact (map_eq_pure_bind ..).symm

theorem take_eq_ok_iff {key : Except SyntaxFault String} :
    draft.take layout.declared key set other = .ok next ↔
      (∃ field node, key = .ok (layout.key field) ∧ field ∉ draft.seen ∧
        set field draft.node = .ok node ∧
        { draft with node, seen := field :: draft.seen } = next) ∨
      (∃ name value, key = .ok name ∧ name ∉ layout.keys ∧ other () = .ok value ∧
        { draft with others := (name, value) :: draft.others } = next) := by
  constructor
  · intro h
    cases key with
    | error fault => cases h
    | ok name =>
        cases hlookup : layout.declared.lookup name with
        | some field =>
            obtain rfl := layout.lookup_declared_eq_some.mp hlookup
            by_cases hseen : field ∈ draft.seen
            · rw [layout.take_seen hseen] at h
              cases h
            · rw [layout.take_key hseen, map_eq_ok_iff] at h
              obtain ⟨node, hnode, hnext⟩ := h
              exact .inl ⟨field, node, rfl, hseen, hnode, hnext⟩
        | none =>
            have hname := layout.lookup_declared_eq_none.mp hlookup
            rw [layout.take_other hname, map_eq_ok_iff] at h
            obtain ⟨value, hvalue, hnext⟩ := h
            exact .inr ⟨name, value, rfl, hname, hvalue, hnext⟩
  · rintro (⟨field, node, rfl, hseen, hnode, hnext⟩ | ⟨name, value, rfl, hname, hvalue, hnext⟩)
    · rw [layout.take_key hseen, map_eq_ok_iff]
      exact ⟨node, hnode, hnext⟩
    · rw [layout.take_other hname, map_eq_ok_iff]
      exact ⟨value, hvalue, hnext⟩

end take

/-! ## All members -/

section takeAll

variable {set : φ → Source → α → Except Fault α} {other : Source → Except Fault Json}
  {draft final : Draft φ α}

theorem takeAll_cons_eq_ok_iff {member : Except SyntaxFault String × Source}
    {members : List (Except SyntaxFault String × Source)} :
    draft.takeAll layout.declared set other (member :: members) = .ok final ↔
      ∃ next, draft.take layout.declared member.1 (set · member.2) (fun _ => other member.2) =
          .ok next ∧
        next.takeAll layout.declared set other members = .ok final := by
  rw [Draft.takeAll, bind_eq_ok_iff]

theorem takeAll_append (xs ys : List (Except SyntaxFault String × Source)) :
    draft.takeAll layout.declared set other (xs ++ ys) =
      draft.takeAll layout.declared set other xs >>= fun draft =>
        draft.takeAll layout.declared set other ys := by
  induction xs generalizing draft with
  | nil => rfl
  | cons member xs ih =>
      rw [List.cons_append, Draft.takeAll, Draft.takeAll, bind_assoc]
      exact congrArg _ (funext fun _ => ih)

theorem takeAll_append_eq_ok_iff (xs ys : List (Except SyntaxFault String × Source)) :
    draft.takeAll layout.declared set other (xs ++ ys) = .ok final ↔
      ∃ next, draft.takeAll layout.declared set other xs = .ok next ∧
        next.takeAll layout.declared set other ys = .ok final := by
  rw [takeAll_append, bind_eq_ok_iff]

theorem takeAll_induction {P : Draft φ α → Prop}
    {members : List (Except SyntaxFault String × Source)}
    (hset : ∀ member ∈ members, ∀ (draft : Draft φ α) field node, P draft →
      member.1 = .ok (layout.key field) → field ∉ draft.seen →
      set field member.2 draft.node = .ok node →
      P { draft with node, seen := field :: draft.seen })
    (hother : ∀ member ∈ members, ∀ (draft : Draft φ α) name value, P draft →
      member.1 = .ok name → name ∉ layout.keys → other member.2 = .ok value →
      P { draft with others := (name, value) :: draft.others })
    (hdraft : P draft)
    (h : draft.takeAll layout.declared set other members = .ok final) : P final := by
  induction members generalizing draft with
  | nil =>
      cases h
      exact hdraft
  | cons member members ih =>
      obtain ⟨next, htake, hrest⟩ := layout.takeAll_cons_eq_ok_iff.mp h
      obtain ⟨hset, hsets⟩ := List.forall_mem_cons.mp hset
      obtain ⟨hother, hothers⟩ := List.forall_mem_cons.mp hother
      refine ih hsets hothers ?_ hrest
      rcases layout.take_eq_ok_iff.mp htake with
        ⟨field, node, hkey, hseen, hnode, rfl⟩ | ⟨name, value, hkey, hname, hvalue, rfl⟩
      · exact hset draft field node hdraft hkey hseen hnode
      · exact hother draft name value hdraft hkey hname hvalue

end takeAll

/-! ## The order of the members -/

theorem set_eq_ok_iff {route : Route} {field : φ} {source : Source} {node final : α} :
    layout.set route field source node = .ok final ↔
      ∃ part, layout.set route field source layout.empty = .ok part ∧
        layout.copy field part node = final := by
  rw [layout.set_eq, map_eq_ok_iff]

/-- Where the first pair of readers succeeds with one member, the second pair does so with
another one, and to the same effect on the node. -/
structure Carries (set set' : φ → Source → α → Except Fault α)
    (other other' : Source → Except Fault Json)
    (member member' : Except SyntaxFault String × Source) : Prop where
  key : member'.1 = member.1
  set : ∀ field node final, member.1 = .ok (layout.key field) →
    set field member.2 node = .ok final → set' field member'.2 node = .ok final
  other : ∀ name value, member.1 = .ok name → name ∉ layout.keys →
    other member.2 = .ok value → ∃ value', other' member'.2 = .ok value'

theorem Carries.refl {set : φ → Source → α → Except Fault α} {other : Source → Except Fault Json}
    (member : Except SyntaxFault String × Source) :
    layout.Carries set set other other member member :=
  ⟨rfl, fun _ _ _ _ h => h, fun _ value _ _ h => ⟨value, h⟩⟩

theorem takeAll_carries {set set' : φ → Source → α → Except Fault α}
    {other other' : Source → Except Fault Json} {draft draft' final : Draft φ α}
    {members members' : List (Except SyntaxFault String × Source)}
    (hmembers : List.Forall₂ (layout.Carries set set' other other') members members')
    (halike : Draft.Alike draft draft')
    (h : draft.takeAll layout.declared set other members = .ok final) :
    ∃ final', draft'.takeAll layout.declared set' other' members' = .ok final' ∧
      Draft.Alike final final' := by
  induction hmembers generalizing draft draft' with
  | nil =>
      cases h
      exact ⟨draft', rfl, halike⟩
  | cons hmember _ ih =>
      obtain ⟨next, htake, hrest⟩ := layout.takeAll_cons_eq_ok_iff.mp h
      simp only [takeAll_cons_eq_ok_iff]
      rcases layout.take_eq_ok_iff.mp htake with
        ⟨field, node, hkey, hseen, hnode, rfl⟩ | ⟨name, value, hkey, hname, hvalue, rfl⟩
      · have hnode' := hmember.set field _ _ hkey hnode
        rw [halike.node] at hnode'
        have hnext : Draft.Alike { draft with node, seen := field :: draft.seen }
            { draft' with node, seen := field :: draft'.seen } :=
          ⟨rfl, halike.seen.cons field⟩
        obtain ⟨final', hfinal', hlast⟩ := ih hnext hrest
        refine ⟨final', ⟨_, layout.take_eq_ok_iff.mpr (.inl ?_), hfinal'⟩, hlast⟩
        exact ⟨field, node, hmember.key.trans hkey, mt halike.seen.mem_iff.mpr hseen, hnode', rfl⟩
      · obtain ⟨value', hvalue'⟩ := hmember.other name value hkey hname hvalue
        have hnext : Draft.Alike { draft with others := (name, value) :: draft.others }
            { draft' with others := (name, value') :: draft'.others } :=
          ⟨halike.node, halike.seen⟩
        obtain ⟨final', hfinal', hlast⟩ := ih hnext hrest
        refine ⟨final', ⟨_, layout.take_eq_ok_iff.mpr (.inr ?_), hfinal'⟩, hlast⟩
        exact ⟨name, value', hmember.key.trans hkey, hname, hvalue', rfl⟩

variable {route : Route} {other : Source → Except Fault Json} {draft final : Draft φ α}

theorem takeAll_swap {first second : Except SyntaxFault String × Source}
    (h : draft.takeAll layout.declared (layout.set route) other [first, second] = .ok final) :
    ∃ final', draft.takeAll layout.declared (layout.set route) other [second, first] = .ok final' ∧
      Draft.Alike final final' := by
  simp only [takeAll_cons_eq_ok_iff, take_eq_ok_iff] at h ⊢
  obtain ⟨_, ⟨field, node, hkey, hseen, hnode, rfl⟩ | ⟨name, value, hkey, hname, hvalue, rfl⟩, _,
    ⟨field', node', hkey', hseen', hnode', rfl⟩ | ⟨name', value', hkey', hname', hvalue', rfl⟩,
    hfinal⟩ := h <;> cases hfinal
  · obtain ⟨hne, hunseen⟩ := not_or.mp (mt List.mem_cons.mpr hseen')
    obtain ⟨part, hpart, rfl⟩ := layout.set_eq_ok_iff.mp hnode
    obtain ⟨part', hpart', rfl⟩ := layout.set_eq_ok_iff.mp hnode'
    refine ⟨_, ⟨_, .inl ⟨field', _, hkey', hunseen, layout.set_eq_ok_iff.mpr ⟨part', hpart', rfl⟩,
      rfl⟩, _, .inl ⟨field, _, hkey, ?_, layout.set_eq_ok_iff.mpr ⟨part, hpart, rfl⟩, rfl⟩, rfl⟩, ?_⟩
    · exact List.not_mem_cons_of_ne_of_not_mem (Ne.symm hne) hseen
    · exact ⟨layout.copy_comm hne part' part draft.node, .swap ..⟩
  · exact ⟨_, ⟨_, .inr ⟨name', value', hkey', hname', hvalue', rfl⟩, _,
      .inl ⟨field, node, hkey, hseen, hnode, rfl⟩, rfl⟩, rfl, .refl _⟩
  · exact ⟨_, ⟨_, .inl ⟨field', node', hkey', hseen', hnode', rfl⟩, _,
      .inr ⟨name, value, hkey, hname, hvalue, rfl⟩, rfl⟩, rfl, .refl _⟩
  · exact ⟨_, ⟨_, .inr ⟨name', value', hkey', hname', hvalue', rfl⟩, _,
      .inr ⟨name, value, hkey, hname, hvalue, rfl⟩, rfl⟩, rfl, .refl _⟩

theorem takeAll_alike {draft' : Draft φ α}
    {members : List (Except SyntaxFault String × Source)} (halike : Draft.Alike draft draft')
    (h : draft.takeAll layout.declared (layout.set route) other members = .ok final) :
    ∃ final', draft'.takeAll layout.declared (layout.set route) other members = .ok final' ∧
      Draft.Alike final final' :=
  layout.takeAll_carries (List.forall₂_same.mpr fun member _ => .refl layout member) halike h

theorem takeAll_perm {xs ys : List (Except SyntaxFault String × Source)} (hperm : xs.Perm ys)
    (h : draft.takeAll layout.declared (layout.set route) other xs = .ok final) :
    ∃ final', draft.takeAll layout.declared (layout.set route) other ys = .ok final' ∧
      Draft.Alike final final' := by
  induction hperm generalizing draft final with
  | nil => exact ⟨final, h, .refl final⟩
  | cons member _ ih =>
      obtain ⟨next, htake, hrest⟩ := layout.takeAll_cons_eq_ok_iff.mp h
      obtain ⟨final', hfinal', halike⟩ := ih hrest
      exact ⟨final', layout.takeAll_cons_eq_ok_iff.mpr ⟨next, htake, hfinal'⟩, halike⟩
  | swap second first rest =>
      obtain ⟨next, hpair, hrest⟩ := (layout.takeAll_append_eq_ok_iff [first, second] rest).mp h
      obtain ⟨next', hpair', hnext⟩ := layout.takeAll_swap hpair
      obtain ⟨final', hfinal', halike⟩ := layout.takeAll_alike hnext hrest
      exact ⟨final', (layout.takeAll_append_eq_ok_iff [second, first] rest).mpr
        ⟨next', hpair', hfinal'⟩, halike⟩
  | trans _ _ ihfirst ihsecond =>
      obtain ⟨middle, hmiddle, hfirst⟩ := ihfirst h
      obtain ⟨final', hfinal', hsecond⟩ := ihsecond hmiddle
      exact ⟨final', hfinal', hfirst.trans hsecond⟩

end Layout

end Relabel
