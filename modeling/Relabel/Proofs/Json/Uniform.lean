import Relabel.Proofs.Json.Depth
import Relabel.Proofs.Json.Normal

/-!
# Readers that do not depend on the route

Read from a text or from memory, with the members in any order, a document without repeated keys
has the same value or none.  Here this is shown of the readers of single values, lists, optional
values and tags; the causes of a failure may differ.
-/

namespace Relabel.Json

/-- A reader finds the same in a document and in its normal form in memory. -/
def Uniform {α : Type} (reader : Route → Source → Except Fault α) (document : Json) : Prop :=
  ∀ route : Route, route.admits document.depth →
    (reader route (Source.ofJson document)).toOption =
      (reader .memory (Source.ofJson document.normalize)).toOption

variable {α : Type} {reader : Route → Source → Except Fault α}

theorem Uniform.map {β : Type} {document : Json} (h : Uniform reader document) (f : α → β) :
    Uniform (fun route source => return f (← reader route source)) document := by
  intro route hadmits
  simp only [toOption_bind, h route hadmits]

theorem uniform_readText (document : Json) : Uniform (fun _ => Source.readText) document := by
  intro route _
  cases document <;> rfl

theorem uniform_readFlag (document : Json) : Uniform (fun _ => Source.readFlag) document := by
  intro route _
  cases document <;> rfl

theorem uniform_readCode (document : Json) : Uniform (fun _ => Source.readCode) document := by
  intro route _
  cases document <;> rfl

theorem uniform_readUnit (document : Json) : Uniform (fun _ => Source.readUnit) document := by
  intro route _
  cases document <;> rfl

theorem uniform_readNormal (document : Json) :
    Uniform (fun route source => source.readNormal route) document := by
  intro route hadmits
  simp only [Source.readNormal, Source.read_ofJson, Route.gate_of_admits hadmits,
    Route.gate_memory, toOption_map, toOption_ok, Option.map_some, normalize_normalize]

theorem uniform_readOptional {document : Json} (h : Uniform reader document) :
    Uniform (fun route => Source.readOptional (reader route)) document := by
  intro route hadmits
  have hreader := h route hadmits
  cases document with
  | null => rfl
  | _ =>
      simp only [Source.ofJson, normalize, Source.readOptional, toOption_map] at hreader ⊢
      rw [hreader]

theorem Source.readList_array {route : Route} (hroute : route.admits 1) (items : List Source) :
    readList route reader (.array items .closed) = items.mapM (reader route.inner) := by
  have hclosed : check ArrayEnd.closed.whenRead? = .ok () := rfl
  simp only [readList, Route.enter_eq, Route.gate_of_admits hroute, ok_bind, hclosed]
  exact bind_pure _

theorem uniform_readList {document : Json} (h : ∀ part ∈ document.parts, Uniform reader part) :
    Uniform (fun route => Source.readList route reader) document := by
  intro route hadmits
  cases document with
  | array items =>
      obtain ⟨hroute, hinner⟩ := Route.admits_depth_array.mp hadmits
      simp only [normalize_array, Source.ofJson, Source.ofItems_eq]
      rw [Source.readList_array hroute, Source.readList_array rfl, List.mapM_map, List.mapM_map,
        List.mapM_map]
      refine toOption_mapM_congr fun item hitem => ?_
      exact h item hitem route.inner (hinner item hitem)
  | _ => rfl

theorem skip_ofJson (document : Json) : (Source.ofJson document).skip = .ok () := by
  induction document using induction_on_parts with
  | step document ih =>
      cases document with
      | array items =>
          have hitems : Source.skipItems (items.map Source.ofJson) = .ok () := by
            induction items with
            | nil => rfl
            | cons item items ihitems =>
                obtain ⟨hitem, hrest⟩ := List.forall_mem_cons.mp ih
                rw [List.map_cons, Source.skipItems, hitem, ok_bind, ihitems hrest]
          rw [Source.ofJson, Source.ofItems_eq, Source.skip, hitems]
          rfl
      | object members =>
          have hmembers : Source.skipMembers (members.map Source.ofMember) = .ok () := by
            induction members with
            | nil => rfl
            | cons member members ihmembers =>
                obtain ⟨hvalue, hrest⟩ := List.forall_mem_cons.mp ih
                rw [List.map_cons, Source.ofMember, Source.skipMembers, hvalue, ok_bind,
                  ihmembers hrest]
          rw [Source.ofJson, Source.ofMembers_eq, Source.skip, hmembers]
          rfl
      | _ => rfl

/-! ## Tags -/

section tag

variable (tags : List (String × α))

theorem readTagInMemory_single (key : String) (value : Json) :
    (Source.readTagInMemory tags (Source.ofJson (.object [(key, value)]))).toOption =
      (Source.findTag tags key).toOption.bind fun found =>
        (Source.readUnit (Source.ofJson value)).toOption.map fun _ => found := by
  simp [Source.ofJson, Source.ofMember, Source.readTagInMemory, readable, ok_bind]

theorem readTagInMemory_of_two (first second : String × Json) (rest : List (String × Json)) :
    (Source.readTagInMemory tags
      (Source.ofJson (.object (first :: second :: rest)))).toOption = none := rfl

theorem readTagInText_eq {route : Route} {document : Json} (hadmits : route.admits document.depth) :
    (Source.readTagInText tags route (Source.ofJson document)).toOption =
      (Source.readTagInMemory tags (Source.ofJson document)).toOption := by
  cases document with
  | object members =>
      rw [depth_object, Route.admits_succ] at hadmits
      have henter : route.enter = .ok route.inner := by
        rw [Route.enter_eq, Route.gate_of_admits hadmits.1]
      match members with
      | [] => simp [Source.ofJson, Source.readTagInText, Source.readTagInMemory, henter, ok_bind]
      | [(key, value)] =>
          rw [readTagInMemory_single]
          simp [Source.ofJson, Source.ofMember, Source.readTagInText, readable, henter, ok_bind]
      | first :: second :: rest =>
          rw [readTagInMemory_of_two]
          simp [Source.ofJson, Source.readTagInText, henter, ok_bind]
  | _ => rfl

theorem readTagInMemory_normalize {document : Json} (h : document.NoRepeats) :
    (Source.readTagInMemory tags (Source.ofJson document)).toOption =
      (Source.readTagInMemory tags (Source.ofJson document.normalize)).toOption := by
  cases document with
  | object members =>
      rw [normalize_object]
      match members with
      | [] => rfl
      | [(key, value)] =>
          have hunit := uniform_readUnit value .memory (by simp)
          change _ = (Source.readTagInMemory tags
            (Source.ofJson (.object [(key, value.normalize)]))).toOption
          rw [readTagInMemory_single, readTagInMemory_single, hunit]
      | first :: second :: rest =>
          have hlength := (normalize_object_perm h.nodup).length_eq
          obtain ⟨first', rest', hsorted⟩ := List.exists_cons_of_length_eq_add_one hlength
          obtain ⟨second', rest'', hrest⟩ : ∃ second' rest'', rest' = second' :: rest'' := by
            rw [hsorted] at hlength
            exact List.exists_cons_of_length_eq_add_one (Nat.succ.inj hlength)
          rw [hsorted, hrest, readTagInMemory_of_two, readTagInMemory_of_two]
  | _ => rfl

theorem uniform_readTag {document : Json} (h : document.NoRepeats) :
    Uniform (fun route => Source.readTag tags route) document := by
  intro route hadmits
  cases route with
  | text depth => exact (readTagInText_eq tags hadmits).trans (readTagInMemory_normalize tags h)
  | memory => exact readTagInMemory_normalize tags h

end tag

end Relabel.Json
