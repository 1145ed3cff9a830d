import Relabel.Json.Source

/-!
# Documents as trees

The parts of a document are the items of an array and the values of an object.  What holds of
a document whenever it holds of its parts, is true of every document; the same goes for the
readable part of a text.
-/

namespace Relabel.Json

def parts : Json → List Json
  | .array items => items
  | .object members => members.map Prod.snd
  | _ => []

theorem sizeOf_lt_of_mem_parts {document part : Json} (h : part ∈ document.parts) :
    sizeOf part < sizeOf document := by
  cases document with
  | array items =>
      have hitem : sizeOf part < sizeOf items := List.sizeOf_lt_of_mem h
      rw [array.sizeOf_spec]
      omega
  | object members =>
      obtain ⟨⟨key, value⟩, hmember, rfl⟩ := List.mem_map.mp h
      have hlt := List.sizeOf_lt_of_mem hmember
      simp only [Prod.mk.sizeOf_spec] at hlt
      simp only [object.sizeOf_spec]
      omega
  | _ => simp [parts] at h

@[elab_as_elim]
theorem induction_on_parts {P : Json → Prop}
    (step : ∀ document : Json, (∀ part ∈ document.parts, P part) → P document)
    (document : Json) : P document :=
  step document fun part _ => induction_on_parts step part
termination_by sizeOf document
decreasing_by exact sizeOf_lt_of_mem_parts ‹_›

theorem mem_parts_of_mem_members {members : List (String × Json)} {member : String × Json}
    (h : member ∈ members) : member.2 ∈ (object members).parts :=
  List.mem_map_of_mem h

/-- A document and its parts, their parts and so on. -/
inductive Within (inner : Json) : Json → Prop where
  | self : Within inner inner
  | part {document part : Json} (mem : part ∈ document.parts) (within : Within inner part) :
      Within inner document

theorem induction_on_within {P : Json → Prop}
    (step : ∀ document : Json,
      (∀ part ∈ document.parts, ∀ inner : Json, inner.Within part → P inner) → P document)
    (document : Json) : P document := by
  suffices h : ∀ inner : Json, inner.Within document → P inner from h document .self
  induction document using induction_on_parts with
  | step document ih =>
      intro inner hinner
      cases hinner with
      | self => exact step document ih
      | part hpart hwithin => exact ih _ hpart inner hwithin

/-- All numbers of a document are whole. -/
def Whole (document : Json) : Prop :=
  ∀ n, (number n).Within document → ∃ value fits, n = .whole value fits

def NoRepeats (document : Json) : Prop :=
  ∀ members, (object members).Within document → (members.map Prod.fst).Nodup

theorem Whole.part {document part : Json} (h : document.Whole) (hpart : part ∈ document.parts) :
    part.Whole :=
  fun n hn => h n (.part hpart hn)

theorem whole_of_parts {document : Json} (hnumber : ∀ n, document ≠ .number n)
    (h : ∀ part ∈ document.parts, part.Whole) : document.Whole := by
  intro n hn
  cases hn with
  | self => exact absurd rfl (hnumber n)
  | part hpart hwithin => exact h _ hpart n hwithin

theorem whole_array {items : List Json} : (array items).Whole ↔ ∀ item ∈ items, item.Whole := by
  constructor
  · exact fun h item hitem => h.part hitem
  · exact fun h => whole_of_parts (by simp) h

theorem whole_object {members : List (String × Json)} :
    (object members).Whole ↔ ∀ member ∈ members, member.2.Whole := by
  constructor
  · exact fun h member hmember => h.part (mem_parts_of_mem_members hmember)
  · exact fun h => whole_of_parts (by simp) (List.forall_mem_map.mpr h)

@[simp] theorem whole_null : null.Whole :=
  whole_of_parts (by simp) (List.forall_mem_nil _)

@[simp] theorem whole_bool (b : Bool) : (bool b).Whole :=
  whole_of_parts (by simp) (List.forall_mem_nil _)

@[simp] theorem whole_text (s : String) : (text s).Whole :=
  whole_of_parts (by simp) (List.forall_mem_nil _)

theorem NoRepeats.within {document inner : Json} (h : document.NoRepeats)
    (hinner : inner.Within document) : inner.NoRepeats := by
  induction hinner with
  | self => exact h
  | part hpart _ ih => exact ih fun members hmembers => h members (.part hpart hmembers)

theorem NoRepeats.part {document part : Json} (h : document.NoRepeats)
    (hpart : part ∈ document.parts) : part.NoRepeats :=
  fun members hmembers => h members (.part hpart hmembers)

theorem NoRepeats.nodup {members : List (String × Json)} (h : (object members).NoRepeats) :
    (members.map Prod.fst).Nodup :=
  h members .self

theorem noRepeats_array {items : List Json} :
    (array items).NoRepeats ↔ ∀ item ∈ items, item.NoRepeats := by
  constructor
  · intro h item hitem
    exact h.part hitem
  · intro h members hmembers
    cases hmembers with
    | part hpart hwithin => exact h _ hpart members hwithin

theorem noRepeats_object {members : List (String × Json)} :
    (object members).NoRepeats ↔
      (members.map Prod.fst).Nodup ∧ ∀ member ∈ members, member.2.NoRepeats := by
  constructor
  · intro h
    exact ⟨h.nodup, fun member hmember => h.part (mem_parts_of_mem_members hmember)⟩
  · rintro ⟨hnodup, hvalues⟩ inner hinner
    cases hinner with
    | self => exact hnodup
    | part hpart hwithin =>
        obtain ⟨member, hmember, rfl⟩ := List.mem_map.mp hpart
        exact hvalues member hmember inner hwithin

theorem noRepeats_text (s : String) : (text s).NoRepeats := by
  intro members hmembers
  cases hmembers with
  | part hpart => cases hpart

/-! ## Traversals -/

@[simp] theorem normalizeItems_eq (items : List Json) :
    normalizeItems items = items.map normalize := by
  induction items with
  | nil => rfl
  | cons item items ih => simp [normalizeItems, ih]

def mapValue {α β : Type} (f : α → β) (member : String × α) : String × β :=
  (member.1, f member.2)

@[simp] theorem normalizeMembers_eq (members : List (String × Json)) :
    normalizeMembers members = members.map (mapValue normalize) := by
  induction members with
  | nil => rfl
  | cons member members ih => simp [normalizeMembers, mapValue, ih]

namespace Source

def parts : Source → List Source
  | array items _ => items
  | object members _ => members.map Prod.snd
  | _ => []

theorem sizeOf_lt_of_mem_parts {source part : Source} (h : part ∈ source.parts) :
    sizeOf part < sizeOf source := by
  cases source with
  | array items ending =>
      have hitem : sizeOf part < sizeOf items := List.sizeOf_lt_of_mem h
      rw [array.sizeOf_spec]
      omega
  | object members ending =>
      obtain ⟨⟨key, value⟩, hmember, rfl⟩ := List.mem_map.mp h
      have hlt := List.sizeOf_lt_of_mem hmember
      simp only [Prod.mk.sizeOf_spec] at hlt
      simp only [object.sizeOf_spec]
      omega
  | _ => simp [parts] at h

@[elab_as_elim]
theorem induction_on_parts {P : Source → Prop}
    (step : ∀ source : Source, (∀ part ∈ source.parts, P part) → P source) (source : Source) :
    P source :=
  step source fun part _ => induction_on_parts step part
termination_by sizeOf source
decreasing_by exact sizeOf_lt_of_mem_parts ‹_›

@[simp] theorem ofItems_eq (items : List Json) : ofItems items = items.map ofJson := by
  induction items with
  | nil => rfl
  | cons item items ih => simp [ofItems, ih]

def ofMember (member : String × Json) : Except SyntaxFault String × Source :=
  (.ok member.1, ofJson member.2)

@[simp] theorem ofMembers_eq (members : List (String × Json)) :
    ofMembers members = members.map ofMember := by
  induction members with
  | nil => rfl
  | cons member members ih => simp [ofMembers, ofMember, ih]

end Source

end Relabel.Json
