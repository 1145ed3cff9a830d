import Relabel.Json.Reader

/-!
# Outcomes of a reader

When a chain of readers succeeds, and what it yields if the fault of a failure is left out.
-/

namespace Relabel.Json

variable {ε α β : Type}

theorem ok_bind (a : α) (f : α → Except ε β) : (Except.ok a >>= f) = f a := rfl

theorem bind_eq_ok_iff {x : Except ε α} {f : α → Except ε β} {b : β} :
    (x >>= f) = .ok b ↔ ∃ a, x = .ok a ∧ f a = .ok b := by
  cases x with
  | error fault => simp [bind, Except.bind]
  | ok a => simp [bind, Except.bind]

theorem map_eq_ok_iff {x : Except ε α} {f : α → β} {b : β} :
    (f <$> x) = .ok b ↔ ∃ a, x = .ok a ∧ f a = b := by
  cases x <;> simp [Functor.map, Except.map]

theorem pure_eq_ok_iff {a b : α} : (pure a : Except ε α) = .ok b ↔ a = b := by
  simp [pure, Except.pure]

@[simp] theorem toOption_ok (a : α) : (Except.ok a : Except ε α).toOption = some a := rfl

@[simp] theorem toOption_error (fault : ε) :
    (Except.error fault : Except ε α).toOption = none := rfl

@[simp] theorem toOption_pure (a : α) : (pure a : Except ε α).toOption = some a := rfl

@[simp] theorem toOption_throw (fault : ε) : (throw fault : Except ε α).toOption = none := rfl

@[simp] theorem toOption_bind (x : Except ε α) (f : α → Except ε β) :
    (x >>= f).toOption = x.toOption.bind fun a => (f a).toOption := by
  cases x <;> rfl

@[simp] theorem toOption_map (x : Except ε α) (f : α → β) :
    (f <$> x).toOption = x.toOption.map f := by
  cases x <;> rfl

theorem toOption_eq_some_iff {x : Except ε α} {a : α} : x.toOption = some a ↔ x = .ok a := by
  cases x <;> simp

theorem toOption_eq_none_iff {x : Except ε α} : x.toOption = none ↔ ∀ a, x ≠ .ok a := by
  cases x <;> simp

theorem toOption_eq_iff {x y : Except ε α} :
    x.toOption = y.toOption ↔ ∀ a, x = .ok a ↔ y = .ok a := by
  simp only [← toOption_eq_some_iff]
  exact ⟨fun h a => by rw [h], fun h => Option.ext h⟩

theorem toOption_map_eq {γ : Type} {x : Except ε α} {y : Except ε β} {f : α → γ} {g : β → γ}
    (hxy : ∀ a, x = .ok a → ∃ b, y = .ok b ∧ f a = g b)
    (hyx : ∀ b, y = .ok b → ∃ a, x = .ok a ∧ f a = g b) :
    x.toOption.map f = y.toOption.map g := by
  cases x with
  | ok a =>
      obtain ⟨b, rfl, hab⟩ := hxy a rfl
      exact congrArg some hab
  | error fault =>
      cases y with
      | ok b =>
          obtain ⟨a, ha, -⟩ := hyx b rfl
          cases ha
      | error fault' => rfl

theorem toOption_map_congr {x : Except ε α} {f g : α → β} (h : ∀ a, x = .ok a → f a = g a) :
    x.toOption.map f = x.toOption.map g := by
  cases x with
  | ok a => exact congrArg some (h a rfl)
  | error fault => rfl

theorem mapM_eq_ok_cons_iff {f : α → Except ε β} {a : α} {as : List α} {results : List β} :
    (a :: as).mapM f = .ok results ↔
      ∃ b bs, f a = .ok b ∧ as.mapM f = .ok bs ∧ results = b :: bs := by
  simp only [List.mapM_cons, bind_eq_ok_iff, pure_eq_ok_iff]
  constructor
  · rintro ⟨b, hb, bs, hbs, rfl⟩
    exact ⟨b, bs, hb, hbs, rfl⟩
  · rintro ⟨b, bs, hb, hbs, rfl⟩
    exact ⟨b, hb, bs, hbs, rfl⟩

theorem exists_of_mapM_eq_ok {f : α → Except ε β} {items : List α} {results : List β}
    (h : items.mapM f = .ok results) {a : α} (ha : a ∈ items) : ∃ b, f a = .ok b := by
  induction items generalizing results with
  | nil => cases ha
  | cons first items ih =>
      obtain ⟨b, bs, hb, hbs, -⟩ := mapM_eq_ok_cons_iff.mp h
      rcases List.mem_cons.mp ha with rfl | hrest
      · exact ⟨b, hb⟩
      · exact ih hbs hrest

theorem forall_of_mapM_eq_ok {f : α → Except ε β} {P : β → Prop} {items : List α}
    {results : List β} (hitems : ∀ a ∈ items, ∀ b, f a = .ok b → P b)
    (h : items.mapM f = .ok results) : ∀ b ∈ results, P b := by
  induction items generalizing results with
  | nil =>
      rw [List.mapM_nil, pure_eq_ok_iff] at h
      rw [← h]
      exact List.forall_mem_nil P
  | cons a items ih =>
      obtain ⟨b, bs, hb, hbs, rfl⟩ := mapM_eq_ok_cons_iff.mp h
      obtain ⟨ha, hrest⟩ := List.forall_mem_cons.mp hitems
      exact List.forall_mem_cons.mpr ⟨ha b hb, ih hrest hbs⟩

theorem eq_map_of_mapM_eq_ok {f : α → Except ε β} {g : β → α} {items : List α}
    {results : List β} (hitems : ∀ a ∈ items, ∀ b, f a = .ok b → a = g b)
    (h : items.mapM f = .ok results) : items = results.map g := by
  induction items generalizing results with
  | nil =>
      rw [List.mapM_nil, pure_eq_ok_iff] at h
      rw [← h, List.map_nil]
  | cons a items ih =>
      obtain ⟨b, bs, hb, hbs, rfl⟩ := mapM_eq_ok_cons_iff.mp h
      obtain ⟨ha, hrest⟩ := List.forall_mem_cons.mp hitems
      rw [List.map_cons, ← ha b hb, ← ih hrest hbs]

theorem mapM_append_cons_eq_error {f : α → Except ε β} {before after : List α} {a : α} {fault : ε}
    (hbefore : ∀ b ∈ before, ∃ c, f b = .ok c) (ha : f a = .error fault) :
    (before ++ a :: after).mapM f = .error fault := by
  induction before with
  | nil =>
      rw [List.nil_append, List.mapM_cons, ha]
      rfl
  | cons b before ih =>
      obtain ⟨⟨c, hc⟩, hbefore⟩ := List.forall_mem_cons.mp hbefore
      rw [List.cons_append, List.mapM_cons, hc, ih hbefore]
      rfl

theorem toOption_mapM_congr {f g : α → Except ε β} {items : List α}
    (hitems : ∀ a ∈ items, (f a).toOption = (g a).toOption) :
    (items.mapM f).toOption = (items.mapM g).toOption := by
  induction items with
  | nil => rfl
  | cons a items ih =>
      obtain ⟨ha, hrest⟩ := List.forall_mem_cons.mp hitems
      simp [ha, ih hrest]

end Relabel.Json
