import Relabel.Proofs.Json.Outcome
import Relabel.Proofs.Json.Tree

/-!
# Nesting

The depth of a document is the number of containers that are open at once at its deepest place.
A reader that finds nothing wrong with a document refuses it exactly where its depth exceeds
what the route admits.
-/

namespace Relabel.Json

/-! ## Depth of a document -/

mutual

/-- The most containers of a document that are open at once. -/
def depth : Json → Nat
  | .array items => depthOfItems items + 1
  | .object members => depthOfMembers members + 1
  | _ => 0

def depthOfItems : List Json → Nat
  | [] => 0
  | item :: rest => max (depth item) (depthOfItems rest)

def depthOfMembers : List (String × Json) → Nat
  | [] => 0
  | (_, value) :: rest => max (depth value) (depthOfMembers rest)

end

@[simp] theorem depth_null : null.depth = 0 := rfl

@[simp] theorem depth_bool (b : Bool) : (bool b).depth = 0 := rfl

@[simp] theorem depth_text (s : String) : (text s).depth = 0 := rfl

def deepest (depths : List Nat) : Nat :=
  depths.foldr max 0

@[simp] theorem deepest_nil : deepest [] = 0 := rfl

@[simp] theorem deepest_cons (n : Nat) (depths : List Nat) :
    deepest (n :: depths) = max n (deepest depths) := rfl

theorem deepest_append (xs ys : List Nat) :
    deepest (xs ++ ys) = max (deepest xs) (deepest ys) := by
  induction xs with
  | nil => simp
  | cons n xs ih => simp [ih, Nat.max_assoc]

theorem deepest_le_iff {depths : List Nat} {n : Nat} :
    deepest depths ≤ n ↔ ∀ m ∈ depths, m ≤ n := by
  induction depths with
  | nil => simp
  | cons m depths ih => rw [deepest_cons, Nat.max_le, ih, List.forall_mem_cons]

theorem depth_array (items : List Json) :
    (array items).depth = deepest (items.map depth) + 1 := by
  have hitems : depthOfItems items = deepest (items.map depth) := by
    induction items with
    | nil => rfl
    | cons item items ih => rw [depthOfItems, ih, List.map_cons, deepest_cons]
  rw [depth, hitems]

theorem depth_object (members : List (String × Json)) :
    (object members).depth = deepest (members.map fun member => member.2.depth) + 1 := by
  have hmembers :
      depthOfMembers members = deepest (members.map fun member => member.2.depth) := by
    induction members with
    | nil => rfl
    | cons member members ih => rw [depthOfMembers, ih, List.map_cons, deepest_cons]
  rw [depth, hmembers]

/-! ## What a route admits -/

namespace Route

def admits : Route → Nat → Bool
  | text depth, count => count ≤ depth - 1
  | memory, _ => true

def inner : Route → Route
  | text depth => text (depth - 1)
  | memory => memory

/-- The value of a document of a given depth, where nothing but the depth can be wrong. -/
def gate {α : Type} (route : Route) (count : Nat) (a : α) : Except Fault α :=
  if route.admits count then .ok a else .error (.form .tooDeep)

theorem admits_text {depth count : Nat} : (text depth).admits count ↔ count ≤ depth - 1 := by
  simp [admits]

@[simp] theorem admits_memory (count : Nat) : memory.admits count := rfl

theorem admits_zero (route : Route) : route.admits 0 := by
  cases route <;> simp [admits]

theorem admits_max {route : Route} {m n : Nat} :
    route.admits (max m n) ↔ route.admits m ∧ route.admits n := by
  cases route with
  | text depth => simp only [admits_text, Nat.max_le]
  | memory => simp

theorem admits_succ {route : Route} {n : Nat} :
    route.admits (n + 1) ↔ route.admits 1 ∧ route.inner.admits n := by
  cases route with
  | text depth =>
      simp only [admits, inner, decide_eq_true_eq]
      omega
  | memory => simp [admits, inner]

theorem admits_deepest {route : Route} {depths : List Nat} :
    route.admits (deepest depths) ↔ ∀ n ∈ depths, route.admits n := by
  cases route <;> simp [admits, deepest_le_iff]

theorem admits_depth_array {route : Route} {items : List Json} :
    route.admits (array items).depth ↔
      route.admits 1 ∧ ∀ item ∈ items, route.inner.admits item.depth := by
  rw [depth_array, admits_succ, admits_deepest, List.forall_mem_map]

theorem admits_depth_object {route : Route} {members : List (String × Json)} :
    route.admits (object members).depth ↔
      route.admits 1 ∧ ∀ member ∈ members, route.inner.admits member.2.depth := by
  rw [depth_object, admits_succ, admits_deepest, List.forall_mem_map]

theorem admits_maxDepth {n : Nat} : (text maxDepth).admits n ↔ n < maxDepth := by
  rw [admits_text, maxDepth]
  omega

variable {α β : Type} {route : Route}

theorem gate_of_admits {n : Nat} (h : route.admits n) (a : α) : route.gate n a = .ok a :=
  if_pos h

@[simp] theorem gate_memory (n : Nat) (a : α) : memory.gate n a = .ok a := rfl

@[simp] theorem gate_zero (a : α) : route.gate 0 a = .ok a :=
  gate_of_admits route.admits_zero a

theorem gate_eq_ok_iff {n : Nat} {a b : α} :
    route.gate n a = .ok b ↔ route.admits n ∧ a = b := by
  unfold gate
  split <;> simp [*]

theorem enter_eq : route.enter = route.gate 1 route.inner := by
  cases route with
  | text depth =>
      unfold enter gate
      simp only [admits_text]
      by_cases hdepth : depth ≤ 1
      · rw [if_pos hdepth, if_neg (by omega)]
      · rw [if_neg hdepth, if_pos (by omega), inner]
  | memory => rfl

theorem gate_bind {m n : Nat} {a : α} {b : β} {next : α → Except Fault β}
    (h : next a = route.gate n b) : (route.gate m a >>= next) = route.gate (max m n) b := by
  by_cases hm : route.admits m
  · rw [gate_of_admits hm, ok_bind, h]
    simp [gate, admits_max, hm]
  · simp [gate, admits_max, hm, bind, Except.bind]

theorem gate_map (n : Nat) (a : α) (f : α → β) :
    f <$> route.gate n a = route.gate n (f a) := by
  unfold gate
  split <;> rfl

theorem enter_bind_gate {n : Nat} {b : β} {next : Route → Except Fault β}
    (h : next route.inner = route.inner.gate n b) :
    (route.enter >>= next) = route.gate (n + 1) b := by
  rw [enter_eq]
  by_cases hroute : route.admits 1
  · rw [gate_of_admits hroute, ok_bind, h]
    simp [gate, admits_succ (n := n), hroute]
  · simp [gate, admits_succ (n := n), hroute, bind, Except.bind]

theorem mapM_gate {γ : Type} {f : γ → Except Fault β} {n : γ → Nat} {g : γ → β} {items : List γ}
    (h : ∀ c ∈ items, f c = route.gate (n c) (g c)) :
    items.mapM f = route.gate (deepest (items.map n)) (items.map g) := by
  induction items with
  | nil => simp [pure, Except.pure]
  | cons c items ih =>
      obtain ⟨hc, hrest⟩ := List.forall_mem_cons.mp h
      rw [List.mapM_cons, hc]
      refine gate_bind ?_
      rw [ih hrest]
      exact (map_eq_pure_bind ..).symm.trans (gate_map ..)

end Route

/-! ## Reading any value -/

namespace Source

theorem readItems_eq (route : Route) (items : List Source) :
    readItems route items = items.mapM (read route) := by
  induction items with
  | nil => rfl
  | cons item items ih => rw [readItems, List.mapM_cons, ih]

def readMember (route : Route) (member : Except SyntaxFault String × Source) :
    Except Fault (String × Json) := do
  let key ← readable member.1
  let value ← read route member.2
  return (key, value)

theorem readMembers_eq (route : Route) (members : List (Except SyntaxFault String × Source)) :
    readMembers route members = members.mapM (readMember route) := by
  induction members with
  | nil => rfl
  | cons member members ih =>
      rw [readMembers, List.mapM_cons, ih]
      simp only [readMember, bind_assoc, pure_bind]

theorem read_ofJson (route : Route) (document : Json) :
    (ofJson document).read route = route.gate document.depth document := by
  induction document using Json.induction_on_parts generalizing route with
  | step document ih =>
      cases document with
      | array items =>
          have hitem (inner : Route) : ∀ item ∈ items,
              read inner (ofJson item) = inner.gate item.depth item :=
            fun item hitem => ih item hitem inner
          rw [depth_array]
          simp only [ofJson, ofItems_eq, read, readItems_eq, List.mapM_map, Function.comp_def]
          refine Route.enter_bind_gate ?_
          rw [Route.mapM_gate (hitem route.inner), List.map_id']
          exact (map_eq_pure_bind ..).symm.trans (Route.gate_map ..)
      | object members =>
          have hmember (inner : Route) : ∀ member ∈ members,
              readMember inner (ofMember member) = inner.gate member.2.depth member := by
            intro member hmember
            have hvalue := ih member.2 (mem_parts_of_mem_members hmember) inner
            simp only [readMember, ofMember, readable, hvalue]
            exact (map_eq_pure_bind ..).symm.trans (Route.gate_map ..)
          rw [depth_object]
          simp only [ofJson, ofMembers_eq, read, readMembers_eq, List.mapM_map,
            Function.comp_def]
          refine Route.enter_bind_gate ?_
          rw [Route.mapM_gate (hmember route.inner), List.map_id']
          exact (map_eq_pure_bind ..).symm.trans (Route.gate_map ..)
      | _ => simp [ofJson, read, readable, depth, Functor.map, Except.map]

theorem check_whenRead_array {ending : ArrayEnd} :
    check ending.whenRead? = .ok () ↔ ending = .closed := by
  cases ending <;> simp [ArrayEnd.whenRead?, check]

theorem check_whenRead_object {ending : ObjectEnd} :
    check ending.whenRead? = .ok () ↔ ending = .closed := by
  cases ending <;> simp [ObjectEnd.whenRead?, check]

theorem readable_eq_ok_iff {α : Type} {x : Except SyntaxFault α} {a : α} :
    readable x = .ok a ↔ x = .ok a := by
  cases x <;> simp [readable]

theorem eq_ofJson_of_read {route : Route} {source : Source} {document : Json}
    (h : source.read route = .ok document) : source = ofJson document := by
  induction source using Source.induction_on_parts generalizing route document with
  | step source ih =>
      cases source with
      | array items ending =>
          simp only [read, readItems_eq, bind_eq_ok_iff, pure_eq_ok_iff] at h
          obtain ⟨inner, -, documents, hitems, ⟨⟩, hending, rfl⟩ := h
          rw [check_whenRead_array] at hending
          have hitem : ∀ item ∈ items, ∀ result, read inner item = .ok result →
              item = ofJson result :=
            fun item hmem _ hresult => ih item hmem hresult
          have hmap := eq_map_of_mapM_eq_ok hitem hitems
          rw [hending, hmap, ofJson, ofItems_eq]
      | object members ending =>
          simp only [read, readMembers_eq, bind_eq_ok_iff, pure_eq_ok_iff] at h
          obtain ⟨inner, -, documents, hmembers, ⟨⟩, hending, rfl⟩ := h
          rw [check_whenRead_object] at hending
          have hmember : ∀ member ∈ members, ∀ result,
              readMember inner member = .ok result → member = ofMember result := by
            intro member hmember result hresult
            simp only [readMember, bind_eq_ok_iff, pure_eq_ok_iff, readable_eq_ok_iff] at hresult
            obtain ⟨key, hkey, value, hvalue, rfl⟩ := hresult
            have := ih member.2 (List.mem_map_of_mem hmember) hvalue
            exact Prod.ext hkey this
          have hmap := eq_map_of_mapM_eq_ok hmember hmembers
          rw [hending, hmap, ofJson, ofMembers_eq]
      | null | bool b =>
          cases h
          rfl
      | number n =>
          obtain ⟨value, hvalue, rfl⟩ := map_eq_ok_iff.mp h
          rw [ofJson, readable_eq_ok_iff.mp hvalue]
      | text s =>
          obtain ⟨value, hvalue, rfl⟩ := map_eq_ok_iff.mp h
          rw [ofJson, readable_eq_ok_iff.mp hvalue]
      | broken place => cases h

theorem read_eq_ok_iff {route : Route} {source : Source} {document : Json} :
    source.read route = .ok document ↔
      source = ofJson document ∧ route.admits document.depth := by
  constructor
  · intro h
    have hsource := eq_ofJson_of_read h
    rw [hsource, read_ofJson, Route.gate_eq_ok_iff] at h
    exact ⟨hsource, h.1⟩
  · rintro ⟨rfl, hadmits⟩
    rw [read_ofJson, Route.gate_of_admits hadmits]

end Source

/-! ## The document of a text -/

section text

variable {α : Type} {reader : Route → Source → Except Fault α} {text : String}

theorem readTextWith_of_ofText {source : Source} (h : Source.ofText text = (source, false)) :
    readTextWith reader text = reader (.text maxDepth) source := by
  simp only [readTextWith, h]
  exact bind_pure _

theorem readTextWith_eq_ok_iff {a : α} :
    readTextWith reader text = .ok a ↔
      (Source.ofText text).2 = false ∧
        reader (.text maxDepth) (Source.ofText text).1 = .ok a := by
  cases hsource : Source.ofText text with
  | mk source more =>
      cases more with
      | false => simp [readTextWith_of_ofText hsource]
      | true =>
          cases hread : reader (.text maxDepth) source <;>
            simp [readTextWith, hsource, hread, throw, throwThe, MonadExceptOf.throw, bind,
              Except.bind]

end text

/-- The document of a text with the members of its objects as they stand. -/
def readDocument (text : String) : Except Fault Json :=
  readTextWith (fun route source => source.read route) text

theorem readDocument_eq_ok_iff {text : String} {document : Json} :
    readDocument text = .ok document ↔
      Source.ofText text = (Source.ofJson document, false) ∧ document.depth < maxDepth := by
  rw [readDocument, readTextWith_eq_ok_iff, Source.read_eq_ok_iff, Route.admits_maxDepth,
    Prod.ext_iff]
  exact and_left_comm.trans and_assoc.symm

theorem parse_eq (text : String) : parse text = normalize <$> readDocument text := by
  simp only [parse, readDocument, readTextWith, Source.readNormal]
  cases (Source.ofText text).1.read (.text maxDepth) with
  | error fault => rfl
  | ok document => cases (Source.ofText text).2 <;> rfl

end Relabel.Json
