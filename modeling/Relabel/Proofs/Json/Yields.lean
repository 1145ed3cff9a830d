import Relabel.Proofs.Json.Depth
import Relabel.Proofs.Json.Normal

/-!
# What readers yield

A reader that returns nothing but values with a property, whatever the route.  Lists and optional
values have the property of their items, and a value that is kept as a document is in normal form.
-/

namespace Relabel.Json

def Yields {α : Type} (reader : Route → Source → Except Fault α) (P : α → Prop)
    (source : Source) : Prop :=
  ∀ route a, reader route source = .ok a → P a

variable {α β : Type} {reader : Route → Source → Except Fault α} {P : α → Prop} {Q : β → Prop}
  {source : Source}

theorem Yields.map {f : α → β} (h : Yields reader P source) (hf : ∀ a, P a → Q (f a)) :
    Yields (fun route source => return f (← reader route source)) Q source := by
  intro route b hread
  simp only [bind_eq_ok_iff, pure_eq_ok_iff] at hread
  obtain ⟨a, ha, rfl⟩ := hread
  exact hf a (h route a ha)

theorem yields_return {f : α → β} (hf : ∀ a, Q (f a)) :
    Yields (fun route source => return f (← reader route source)) Q source :=
  Yields.map (P := fun _ => True) (fun _ _ _ => trivial) fun a _ => hf a

theorem yields_readOptional (h : Yields reader P source) :
    Yields (fun route => Source.readOptional (reader route)) (∀ a ∈ ·, P a) source := by
  intro route a? hread a ha
  cases source with
  | null =>
      cases hread
      cases ha
  | _ =>
      simp only [Source.readOptional, map_eq_ok_iff] at hread
      obtain ⟨value, hvalue, rfl⟩ := hread
      rw [Option.mem_some_iff] at ha
      subst ha
      exact h route value hvalue

theorem yields_readList (h : ∀ part ∈ source.parts, Yields reader P part) :
    Yields (fun route => Source.readList route reader) (∀ a ∈ ·, P a) source := by
  intro route results hread
  cases source with
  | array items ending =>
      simp only [Source.readList, bind_eq_ok_iff, pure_eq_ok_iff] at hread
      obtain ⟨inner, -, results, hitems, -, -, rfl⟩ := hread
      exact forall_of_mapM_eq_ok (fun item hitem result => h item hitem inner result) hitems
  | number n => cases n <;> cases hread
  | text s => cases s <;> cases hread
  | _ => cases hread

theorem yields_readNormal (source : Source) :
    Yields (fun route source => source.readNormal route) (fun value => value.normalize = value)
      source := by
  intro route value hread
  obtain ⟨document, -, rfl⟩ := map_eq_ok_iff.mp hread
  exact normalize_normalize document

theorem yields_readOptional_readNormal (source : Source) :
    Yields (fun route => Source.readOptional (·.readNormal route))
      (fun value? => (∀ value ∈ value?, value.normalize = value) ∧ .null ∉ value?) source := by
  intro route value? hread
  refine ⟨yields_readOptional (yields_readNormal source) route value? hread, fun hnull => ?_⟩
  cases source with
  | null =>
      cases hread
      cases hnull
  | _ =>
      simp only [Source.readOptional, Source.readNormal, map_eq_ok_iff] at hread
      obtain ⟨value, ⟨document, hdocument, rfl⟩, rfl⟩ := hread
      have hsource := Source.eq_ofJson_of_read hdocument
      cases document <;> simp [Json.normalize, Source.ofJson] at hnull hsource

end Relabel.Json
