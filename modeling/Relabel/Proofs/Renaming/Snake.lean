import Relabel.Proofs.Renaming.Composition
import Relabel.Proofs.Word.Boundary
import Relabel.Proofs.Word.Snake

/-!
# When snake case settles

On ASCII names the rule for models settles after one renaming, and so does the rule for members
but for one kind of name: a single word that starts with a digit and goes on with something
else.  The first renaming only puts a `_` in front of it, and this `_` makes it a name of
several words for the second one.
-/

namespace Relabel

open Relabel.Unicode

/-- A name that starts with a digit, is no number and has no word boundary. -/
def LateDivided (boundary : Boundary) (name : String) : Prop :=
  boundary.divides name = false ∧ name.toList.head?.any Char.isDigit ∧
    ∃ c ∈ name.toList, ¬ c.isDigit

def escapedChars (name : List Char) : List Char :=
  if name.head?.any Char.isDigit then '_' :: name else name

theorem toList_escapeLeadingDigit (name : String) :
    (escapeLeadingDigit name).toList = escapedChars name.toList := by
  simp only [escapeLeadingDigit, escapedChars]
  split <;> simp

namespace Convention

theorem snake_apply_apply (boundary : Boundary) {name : String}
    (h : ∀ c ∈ name.toList, isAscii c) :
    snake.apply boundary (snake.apply boundary name) = snake.apply boundary name := by
  rw [← String.toList_inj, toList_apply, toList_apply, snake_applyChars_applyChars boundary h]

theorem snake_applyChars_underscore (boundary : Boundary) {name : List Char}
    (h : ∀ c ∈ name, isAscii c) : snake.applyChars boundary ('_' :: name) = snake.write name := by
  rw [snake.applyChars_of_divides, snake_write_underscore h]
  exact Boundary.dividesChars_of_separates boundary.separates_underscore (by simp)

theorem snake_escaped_of_divides {boundary : Boundary} {name : List Char}
    (h : ∀ c ∈ name, isAscii c) (hdivides : boundary.dividesChars name) :
    escapedChars (snake.applyChars boundary (escapedChars (snake.applyChars boundary name))) =
      escapedChars (snake.applyChars boundary name) := by
  rw [snake.applyChars_of_divides hdivides]
  simp only [escapedChars]
  split
  · next hdigit =>
      rw [snake_applyChars_underscore boundary (isAscii_snake_write h), snake_write_write h,
        if_pos hdigit]
  · next hdigit =>
      have hsettled := snake_applyChars_applyChars boundary h
      rw [snake.applyChars_of_divides hdivides] at hsettled
      rw [hsettled, if_neg hdigit]

theorem snake_escaped_of_not_divides {boundary : Boundary} {name : List Char}
    (h : ∀ c ∈ name, isAscii c) (hdivides : boundary.dividesChars name = false) :
    escapedChars (snake.applyChars boundary (escapedChars (snake.applyChars boundary name))) =
        escapedChars (snake.applyChars boundary name) ↔
      (name.head?.any Char.isDigit → ∀ c ∈ name, c.isDigit) := by
  rw [snake.applyChars_of_not_divides (by decide) hdivides]
  cases name with
  | nil => simp [escapedChars, applyChars, appliesTo, Boundary.dividesChars]
  | cons first rest =>
      by_cases hdigit : first.isDigit
      · have hunderscore : '_' ∉ first :: rest := fun hmem => by
          simp [Boundary.dividesChars_of_separates boundary.separates_underscore hmem] at hdivides
        have hescaped : escapedChars (first :: rest) = '_' :: first :: rest := by
          simp [escapedChars, hdigit]
        have hagain :
            escapedChars (snake.write (first :: rest)) = '_' :: snake.write (first :: rest) := by
          simp [escapedChars, head?_snake_write hdigit h, hdigit]
        rw [hescaped, snake_applyChars_underscore boundary h, hagain, List.cons_inj_right,
          snake_write_eq_self_iff hdigit h hunderscore]
        simp [hdigit]
      · have hescaped : escapedChars (first :: rest) = first :: rest := by
          simp [escapedChars, hdigit]
        rw [hescaped, snake.applyChars_of_not_divides (by decide) hdivides, hescaped]
        simp [hdigit]

theorem snake_member_settles_iff (options : Options) {name : String}
    (h : ∀ c ∈ name.toList, isAscii c) :
    (snake.rules options).member ((snake.rules options).member name) =
        (snake.rules options).member name ↔
      options.escapeDigits = false ∨ ¬ LateDivided options.boundary name := by
  cases hescape : options.escapeDigits with
  | false => simpa [rules, hescape] using snake_apply_apply options.boundary h
  | true =>
      simp only [rules, hescape, if_true, ← String.toList_inj, toList_escapeLeadingDigit,
        toList_apply]
      cases hdivides : options.boundary.dividesChars name.toList with
      | true =>
          simp [snake_escaped_of_divides h hdivides, LateDivided, Boundary.divides, hdivides]
      | false =>
          rw [snake_escaped_of_not_divides h hdivides]
          simp [LateDivided, Boundary.divides, hdivides]

end Convention

/--
With ASCII names a second conversion to snake case changes nothing exactly if no `_` is put in
front of digits, or no member has a name that starts with a digit, is no number and has no word
boundary.
-/
theorem Client.snake_convert_twice_iff (options : Options) (client : Client)
    (hmodels : ∀ m, (Node.client client).Visits (.model m) → m.kind ≠ .interface →
      ∀ c ∈ m.name.toList, isAscii c)
    (hmembers : ∀ e, (Node.client client).Visits (.member e) → ∀ c ∈ e.name.toList, isAscii c) :
    ((client.convert (.use .snake) options).value.convert (.use .snake) options).value =
        (client.convert (.use .snake) options).value ↔
      options.escapeDigits = false ∨
        ∀ e, (Node.client client).Visits (.member e) →
          ¬ (options.boundary.divides e.name = false ∧ e.name.toList.head?.any Char.isDigit ∧
            ∃ c ∈ e.name.toList, ¬ c.isDigit) := by
  have htwice := Node.rename_twice_iff (Convention.snake.rules options) (.client client)
  simp only [Node.rename, Node.client.injEq, ← Client.value_convert_use] at htwice
  have hmember : ∀ e, (Node.client client).Visits (.member e) →
      (Node.SameName ((Convention.snake.rules options).andThen (Convention.snake.rules options))
          (Convention.snake.rules options) (.member e) ↔
        options.escapeDigits = false ∨ ¬ LateDivided options.boundary e.name) := by
    intro e he
    simp only [Node.SameName, Rules.andThen]
    exact Convention.snake_member_settles_iff options (hmembers e he)
  refine htwice.trans ⟨fun h => ?_, fun h inner hinner => ?_⟩
  · rw [Decidable.or_iff_not_imp_left]
    intro hescape e he
    exact ((hmember e he).mp (h _ he)).resolve_left hescape
  · cases inner with
    | model m =>
        intro hkind
        exact Convention.snake_apply_apply options.boundary (hmodels m hinner hkind)
    | member e => exact (hmember e hinner).mpr (h.imp_right fun hlate => hlate e hinner)
    | _ => trivial

theorem Client.snake_convert_twice_ne_of_digits_before_letters :
    let speed : Model :=
      { name := "speed_class", kind := .enum, members := [{ name := "404" }, { name := "2Fast" }] }
    let courier : Client := { models := [speed] }
    (∀ m, (Node.client courier).Visits (.model m) → m.kind ≠ .interface →
      ∀ c ∈ m.name.toList, isAscii c) ∧
    (∀ e, (Node.client courier).Visits (.member e) → ∀ c ∈ e.name.toList, isAscii c) ∧
    ((courier.convert (.use .snake) {}).value.convert (.use .snake) {}).value ≠
      (courier.convert (.use .snake) {}).value := by
  intro speed courier
  have hvisits : ∀ inner, (Node.client courier).Visits inner →
      inner = .client courier ∨ inner = .model speed ∨
        inner = .member { name := "404" } ∨ inner = .member { name := "2Fast" } := by
    intro inner h
    rw [Node.visits_client] at h
    rcases h with rfl | ⟨m, hm, h⟩ | ⟨s, hs, -⟩
    · exact .inl rfl
    · rw [List.mem_singleton] at hm
      rw [Node.visits_model, hm] at h
      exact .inr (by simpa [speed, Model.held] using h)
    · simp [courier] at hs
  have hmodels : ∀ m, (Node.client courier).Visits (.model m) → m.kind ≠ .interface →
      ∀ c ∈ m.name.toList, isAscii c := by
    intro m hm _
    have hmodel : m = speed := by simpa using hvisits _ hm
    rw [hmodel]
    simp [speed, isAscii]
  have hmembers : ∀ e, (Node.client courier).Visits (.member e) →
      ∀ c ∈ e.name.toList, isAscii c := by
    intro e he
    have hmember : e = { name := "404" } ∨ e = { name := "2Fast" } := by simpa using hvisits _ he
    rcases hmember with rfl | rfl <;> simp [isAscii]
  refine ⟨hmodels, hmembers, ?_⟩
  rw [Ne, Client.snake_convert_twice_iff {} courier hmodels hmembers]
  rintro (hescape | hlate)
  · contradiction
  · have hvisited : (Node.client courier).Visits (.member { name := "2Fast" }) :=
      ⟨[.model 0, .member 1], rfl⟩
    have hdivides : Boundary.standard.divides "2Fast" = false := by decide
    have hdigit : "2Fast".toList.head?.any Char.isDigit := by decide
    have hletter : ∃ c ∈ "2Fast".toList, ¬ c.isDigit := ⟨'F', by simp, by decide⟩
    exact hlate _ hvisited ⟨hdivides, hdigit, hletter⟩

end Relabel
