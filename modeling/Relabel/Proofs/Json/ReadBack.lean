import Relabel.Client.Encode
import Relabel.Client.Decode
import Relabel.Proofs.Json.Uniform

/-!
# Reading back

A reader that finds a value in a document, whatever the route, unless the document is too deep for
the route.  Readers of single values, lists, optional values and tags find what was written.
-/

namespace Relabel.Json

/-- Nothing but its depth keeps a document from being read as a value. -/
def ReadsAs {α : Type} (reader : Route → Source → Except Fault α) (document : Json)
    (a : α) : Prop :=
  ∀ route : Route, reader route (Source.ofJson document) = route.gate document.depth a

variable {α β : Type} {reader : Route → Source → Except Fault α}

theorem ReadsAs.map {document : Json} {a : α} (h : ReadsAs reader document a) (f : α → β) :
    ReadsAs (fun route source => return f (← reader route source)) document (f a) := by
  intro route
  simp only [h route]
  exact (map_eq_pure_bind ..).symm.trans (Route.gate_map ..)

theorem readsAs_readText (s : String) : ReadsAs (fun _ => Source.readText) (.text s) s :=
  fun _ => (Route.gate_zero _).symm

theorem readsAs_readFlag (b : Bool) : ReadsAs (fun _ => Source.readFlag) (.bool b) b :=
  fun _ => (Route.gate_zero _).symm

theorem readsAs_readCode (code : UInt16) :
    ReadsAs (fun _ => Source.readCode) (.ofCode code) code := by
  intro route
  have hcode : (0 : Int) ≤ code.toNat ∧ (code.toNat : Int) < 65536 := by
    have := code.toNat_lt
    omega
  simp only [ofCode, Source.ofJson, Source.readCode, if_pos hcode]
  simp [depth]

theorem whole_ofCode (code : UInt16) : (ofCode code).Whole := by
  intro n hn
  cases hn with
  | self => exact ⟨_, _, rfl⟩
  | part hpart => cases hpart

theorem readsAs_readNormal {document : Json} (h : document.normalize = document) :
    ReadsAs (fun route source => source.readNormal route) document document := by
  intro route
  simp only [Source.readNormal, Source.read_ofJson, Route.gate_map, h]

theorem readsAs_readOptional {a? : Option α} (write : α → Json)
    (h : ∀ a ∈ a?, write a ≠ .null ∧ ReadsAs reader (write a) a) :
    ReadsAs (fun route => Source.readOptional (reader route)) (a?.elim .null write) a? := by
  intro route
  cases a? with
  | none => exact (Route.gate_zero _).symm
  | some a =>
      obtain ⟨hnull, ha⟩ := h a rfl
      have hreader := ha route
      simp only [Option.elim_some]
      cases hwrite : write a with
      | null => contradiction
      | _ =>
          rw [hwrite] at hreader
          simp only [Source.ofJson, Source.readOptional] at hreader ⊢
          rw [hreader, Route.gate_map]

theorem readsAs_ofText? (text? : Option String) :
    ReadsAs (fun _ => Source.readOptional Source.readText) (.ofText? text?) text? :=
  readsAs_readOptional text fun s _ => ⟨nofun, readsAs_readText s⟩

theorem readsAs_readList {items : List α} {write : α → Json}
    (h : ∀ a ∈ items, ReadsAs reader (write a) a) :
    ReadsAs (fun route => Source.readList route reader) (.array (items.map write)) items := by
  intro route
  have hclosed : check ArrayEnd.closed.whenRead? = .ok () := rfl
  have hitems : ∀ a ∈ items, ((reader route.inner ∘ Source.ofJson) ∘ write) a =
      route.inner.gate (write a).depth a :=
    fun a ha => h a ha route.inner
  rw [depth_array, List.map_map]
  simp only [Source.ofJson, Source.ofItems_eq, Source.readList, hclosed, ok_bind, bind_pure]
  refine Route.enter_bind_gate ?_
  rw [List.mapM_map, List.mapM_map, Route.mapM_gate hitems, List.map_id']
  rfl

theorem readsAs_readTag {tags : List (String × α)} {tag : String} {a : α}
    (h : tags.lookup tag = some a) :
    ReadsAs (fun route => Source.readTag tags route) (.text tag) a := by
  have hfind : Source.findTag tags tag = .ok a := by
    rw [Source.findTag, h]
  rintro ⟨depth⟩ <;> exact hfind

theorem readsAs_ofTexts (texts : List String) :
    ReadsAs readTexts (.ofTexts texts) texts :=
  readsAs_readList fun s _ => readsAs_readText s

end Relabel.Json
