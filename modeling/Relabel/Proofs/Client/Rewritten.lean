import Relabel.Proofs.Client.Canonical
import Relabel.Proofs.Client.Grammar
import Relabel.Proofs.Json.ReadBack

/-!
# How a document is written again

A document that is read, renamed and written keeps every member: declared ones keep their values
but for the names that the rules change, absent ones are written with their defaults, and the
others are written in normal form.  Only an error drops what it does not declare, and a tag that
was given as a key is written as a text.
-/

namespace Relabel

open Relabel.Json

/-- The members of a node as they are written: every declared key once, with its default if it was
not given, and the others as they were, if the node keeps them. -/
structure Completed (fields : List (String × Kind)) (keeps : Prop)
    (given written : List (String × Json)) : Prop where
  distinct : (written.map Prod.fst).Nodup
  declared : ∀ field ∈ fields, field.1 ∈ written.map Prod.fst
  missing : ∀ field ∈ fields, field.1 ∉ given.map Prod.fst → (field.1, field.2.missing) ∈ written
  others : ∀ key value, key ∉ fields.map Prod.fst →
    ((key, value) ∈ written ↔ keeps ∧ ∃ old, (key, old) ∈ given ∧ value = old.normalize)

namespace NodeType

/-- The new name of a node, whose written members are given. -/
def Renames (rules : Rules) (written : List (String × Json)) (old new : String) :
    NodeType → Prop
  | member => new = rules.member old
  | model | response =>
      (("export", .text "interface") ∈ written → new = old) ∧
        (("export", .text "interface") ∉ written → new = rules.model old)
  | _ => new = old

/-- Nothing in a parameter is renamed. -/
def rulesWithin (rules : Rules) : NodeType → Rules
  | parameter => .identity
  | _ => rules

end NodeType

/-- `Rewritten rules kind given written`: what is written for a value of a kind. -/
inductive Rewritten : Rules → Kind → Json → Json → Prop where
  | text {rules : Rules} (s : String) : Rewritten rules .text (.text s) (.text s)
  | flag {rules : Rules} (b : Bool) : Rewritten rules .flag (.bool b) (.bool b)
  | code {rules : Rules} (code : UInt16) : Rewritten rules .code (.ofCode code) (.ofCode code)
  | any {rules : Rules} (value : Json) : Rewritten rules .any value value.normalize
  | tag {rules : Rules} {missing word : String} {words : List String} :
      Rewritten rules (.tag missing words) (.text word) (.text word)
  | tagKey {rules : Rules} {missing word : String} {words : List String} :
      Rewritten rules (.tag missing words) (.object [(word, .null)]) (.text word)
  | none {rules : Rules} (kind : Kind) : Rewritten rules (.optional kind) .null .null
  | some {rules : Rules} {kind : Kind} {given written : Json}
      (inner : Rewritten rules kind given written) : Rewritten rules (.optional kind) given written
  | nil {rules : Rules} (kind : Kind) : Rewritten rules (.list kind) (.array []) (.array [])
  | cons {rules : Rules} {kind : Kind} {old new : Json} {given written : List Json}
      (first : Rewritten rules kind old new)
      (rest : Rewritten rules (.list kind) (.array given) (.array written)) :
      Rewritten rules (.list kind) (.array (old :: given)) (.array (new :: written))
  | node {rules : Rules} {type : NodeType} {given written : List (String × Json)}
      (completed : Completed type.fields (type ≠ .error) given written)
      (values : ∀ key kind old new, (key, kind) ∈ type.fields → key ≠ "name" →
        (key, old) ∈ given → (key, new) ∈ written →
        Rewritten (type.rulesWithin rules) kind old new)
      (name : "name" ∈ type.fields.map Prod.fst → ∀ value, ("name", value) ∈ given →
        ∃ old new, value = .text old ∧ ("name", .text new) ∈ written ∧
          type.Renames rules written old new) :
      Rewritten rules (.node type) (.object given) (.object written)
  | pair {rules : Rules} {items : List Json} (short : items.length ≤ 2) :
      Rewritten rules (.node .error) (.array items)
        (.object [("code", items[0]?.getD (Kind.missing .code)),
          ("description", items[1]?.getD (Kind.missing .text))])

def Rewritten.Values (rules : Rules) (fields : List (String × Kind))
    (given written : List (String × Json)) : Prop :=
  ∀ key kind old new, (key, kind) ∈ fields → key ≠ "name" →
    (key, old) ∈ given → (key, new) ∈ written → Rewritten rules kind old new

theorem Rewritten.values_nil (rules : Rules) (given written : List (String × Json)) :
    Values rules [] given written := by
  simp [Values]

theorem rewritten_object_iff {rules : Rules} {type : NodeType}
    {given written : List (String × Json)} :
    Rewritten rules (.node type) (.object given) (.object written) ↔
      Completed type.fields (type ≠ .error) given written ∧
      Rewritten.Values (type.rulesWithin rules) type.fields given written ∧
      ("name" ∈ type.fields.map Prod.fst → ∀ value, ("name", value) ∈ given →
        ∃ old new, value = .text old ∧ ("name", .text new) ∈ written ∧
          type.Renames rules written old new) := by
  constructor
  · intro h
    cases h with
    | node completed values name => exact ⟨completed, values, name⟩
  · rintro ⟨completed, values, name⟩
    exact .node completed values name

theorem Completed.value_unique {fields : List (String × Kind)} {keeps : Prop}
    {given written : List (String × Json)} (h : Completed fields keeps given written)
    {key : String} {a b : Json} (ha : (key, a) ∈ written) (hb : (key, b) ∈ written) : a = b :=
  congrArg Prod.snd (List.inj_on_of_nodup_map h.distinct ha hb rfl)

/-! ## Whole numbers -/

theorem Json.Whole.normalize {document : Json} (h : document.Whole) : document.normalize.Whole := by
  induction document using induction_on_parts with
  | step document ih =>
      cases document with
      | array items =>
          rw [normalize_array, whole_array, List.forall_mem_map]
          exact fun item hitem => ih item hitem (h.part hitem)
      | object members =>
          rw [normalize_object, whole_object]
          intro member hmember
          obtain ⟨old, hold, rfl⟩ := List.mem_map.mp (mem_of_mem_sortMembers hmember)
          have hpart := mem_parts_of_mem_members hold
          exact ih old.2 hpart (h.part hpart)
      | _ => exact h

theorem Kind.whole_missing (kind : Kind) : kind.missing.Whole := by
  cases kind with
  | code => exact whole_ofCode 0
  | list => exact whole_array.mpr (List.forall_mem_nil _)
  | _ => simp [missing]

theorem Rewritten.whole {rules : Rules} {kind : Kind} {given written : Json}
    (h : Rewritten rules kind given written) (hgiven : given.Whole) : written.Whole := by
  induction h with
  | text | flag | code => exact hgiven
  | any => exact hgiven.normalize
  | tag => exact hgiven
  | tagKey => exact whole_text _
  | none => exact hgiven
  | some _ ih => exact ih hgiven
  | nil => exact hgiven
  | cons _ _ ihfirst ihrest =>
      rw [whole_array, List.forall_mem_cons] at hgiven ⊢
      exact ⟨ihfirst hgiven.1, whole_array.mp (ihrest (whole_array.mpr hgiven.2))⟩
  | @node rules type given written completed values name ih =>
      rw [whole_object] at hgiven ⊢
      rintro ⟨key, new⟩ hnew
      by_cases hkey : key ∈ type.fields.map Prod.fst
      · obtain ⟨⟨key, kind⟩, hfield, rfl⟩ := List.mem_map.mp hkey
        by_cases hgivenkey : key ∈ given.map Prod.fst
        · obtain ⟨⟨key, old⟩, hold, rfl⟩ := List.mem_map.mp hgivenkey
          by_cases hname : key = "name"
          · subst hname
            obtain ⟨_, _, -, htext, -⟩ := name hkey old hold
            rw [completed.value_unique hnew htext]
            exact whole_text _
          · exact ih key kind old new hfield hname hold hnew (hgiven _ hold)
        · have hmissing := completed.missing _ hfield hgivenkey
          rw [completed.value_unique hnew hmissing]
          exact kind.whole_missing
      · obtain ⟨-, old, hold, rfl⟩ := (completed.others key new hkey).mp hnew
        exact (hgiven _ hold).normalize
  | @pair rules items short =>
      rw [whole_array] at hgiven
      have hitem : ∀ (index : Nat) kind, (items[index]?.getD (Kind.missing kind)).Whole := by
        intro index kind
        cases hindex : items[index]? with
        | none => exact kind.whole_missing
        | some item => exact hgiven item (List.mem_of_getElem? hindex)
      simp [whole_object, hitem]

/-! ## Readers and writers -/

/-- What a reader finds in a document is written as the document is rewritten. -/
def Rewrites {α : Type} (rules : Rules) (reader : Route → Source → Except Fault α) (kind : Kind)
    (write : α → Json) (document : Json) : Prop :=
  ∀ route a, reader route (Source.ofJson document) = .ok a →
    Rewritten rules kind document (write a)

variable {α β : Type} {rules : Rules} {reader : Route → Source → Except Fault α} {kind : Kind}
  {write : α → Json} {document : Json}

theorem Rewrites.map {f : α → β} {write' : β → Json}
    (h : Rewrites rules reader kind write document) (hwrite : ∀ a, write' (f a) = write a) :
    Rewrites rules (fun route source => return f (← reader route source)) kind write'
      document := by
  intro route b hread
  simp only [bind_eq_ok_iff, pure_eq_ok_iff] at hread
  obtain ⟨a, ha, rfl⟩ := hread
  rw [hwrite]
  exact h route a ha

theorem readText_ofJson_eq_ok {s : String} (h : (Source.ofJson document).readText = .ok s) :
    document = .text s := by
  cases document with
  | text content =>
      cases h
      rfl
  | _ => cases h

theorem readCode_ofJson_eq_ok {code : UInt16} (h : (Source.ofJson document).readCode = .ok code) :
    document = .ofCode code := by
  cases document with
  | number n =>
      cases n with
      | whole n fits =>
          simp only [Source.ofJson, Source.readCode] at h
          split at h
          · next hcode =>
              cases h
              simp [ofCode]
              omega
          · cases h
      | real x => cases h
  | _ => cases h

theorem rewrites_readText : Rewrites rules (fun _ => Source.readText) .text .text document := by
  intro route s hread
  rw [readText_ofJson_eq_ok hread]
  exact .text s

theorem rewrites_readFlag : Rewrites rules (fun _ => Source.readFlag) .flag .bool document := by
  intro route b hread
  cases document with
  | bool value =>
      cases hread
      exact .flag b
  | _ => cases hread

theorem rewrites_readCode : Rewrites rules (fun _ => Source.readCode) .code .ofCode document := by
  intro route code hread
  rw [readCode_ofJson_eq_ok hread]
  exact .code code

theorem rewrites_readNormal :
    Rewrites rules (fun route source => source.readNormal route) .any id document := by
  intro route value hread
  simp only [Source.readNormal, map_eq_ok_iff, Source.read_ofJson, Route.gate_eq_ok_iff] at hread
  obtain ⟨_, ⟨-, rfl⟩, rfl⟩ := hread
  exact .any document

theorem rewrites_readOptional (h : Rewrites rules reader kind write document) :
    Rewrites rules (fun route => Source.readOptional (reader route)) (.optional kind)
      (fun a? => a?.elim .null write) document := by
  intro route a? hread
  cases document with
  | null =>
      cases hread
      exact .none kind
  | _ =>
      simp only [Source.ofJson, Source.readOptional, map_eq_ok_iff] at hread
      obtain ⟨a, ha, rfl⟩ := hread
      exact .some (h route a ha)

theorem rewritten_mapM {route : Route} {items : List Json} {results : List α}
    (h : ∀ item ∈ items, Rewrites rules reader kind write item)
    (hread : items.mapM (fun item => reader route (Source.ofJson item)) = .ok results) :
    Rewritten rules (.list kind) (.array items) (.array (results.map write)) := by
  induction items generalizing results with
  | nil =>
      rw [List.mapM_nil, pure_eq_ok_iff] at hread
      subst hread
      exact .nil kind
  | cons item items ih =>
      obtain ⟨hitem, hitems⟩ := List.forall_mem_cons.mp h
      obtain ⟨a, rest, ha, hrest, rfl⟩ := mapM_eq_ok_cons_iff.mp hread
      exact .cons (hitem route a ha) (ih hitems hrest)

theorem rewrites_readList (h : ∀ part ∈ document.parts, Rewrites rules reader kind write part) :
    Rewrites rules (fun route => Source.readList route reader) (.list kind)
      (fun results => .array (results.map write)) document := by
  intro route results hread
  cases document with
  | array items =>
      simp only [Source.ofJson, Source.ofItems_eq, Source.readList, bind_eq_ok_iff,
        pure_eq_ok_iff] at hread
      obtain ⟨inner, -, results, hitems, -, -, rfl⟩ := hread
      rw [List.mapM_map] at hitems
      exact rewritten_mapM h hitems
  | _ => cases hread

theorem findTag_eq_ok {text : α → String} {values : List α} {word : String} {a : α}
    (h : Source.findTag (tagged text values) word = .ok a) : word = text a := by
  rw [Source.findTag] at h
  split at h
  · next hlookup =>
      cases h
      exact (lookup_tagged_eq_some hlookup).2
  · cases h

theorem readUnit_ofJson_eq_ok (h : (Source.ofJson document).readUnit = .ok ()) :
    document = .null := by
  cases document with
  | null => rfl
  | _ => cases h

theorem readTag_ofJson_eq_ok {text : α → String} {values : List α} {route : Route} {a : α}
    (h : Source.readTag (tagged text values) route (Source.ofJson document) = .ok a) :
    document = .text (text a) ∨ document = .object [(text a, .null)] := by
  cases document with
  | text word =>
      have hfind : Source.findTag (tagged text values) word = .ok a := by
        cases route <;> exact h
      exact .inl (congrArg Json.text (findTag_eq_ok hfind))
  | object members =>
      match members with
      | [(word, value)] =>
          have hread : ∃ found, Source.findTag (tagged text values) word = .ok found ∧
              (fun _ => found) <$> (Source.ofJson value).readUnit = .ok a := by
            cases route <;>
              simp [Source.readTag, Source.readTagInText, Source.readTagInMemory, Source.ofJson,
                Source.ofMember, readable, bind_eq_ok_iff] at h
            · exact h.2
            · exact h
          simp only [map_eq_ok_iff] at hread
          obtain ⟨found, hfind, ⟨⟩, hunit, rfl⟩ := hread
          rw [findTag_eq_ok hfind, readUnit_ofJson_eq_ok hunit]
          exact .inr rfl
      | [] | first :: second :: rest =>
          cases route with
          | text depth =>
              simp [Source.readTag, Source.readTagInText, Source.ofJson, bind_eq_ok_iff] at h
          | memory => cases h
  | _ => cases route <;> cases h

theorem rewrites_readTag {text : α → String} {values : List α} {missing : String} :
    Rewrites rules (fun route => Source.readTag (tagged text values) route)
      (.tag missing (values.map text)) (fun a => .text (text a)) document := by
  intro route a hread
  rcases readTag_ofJson_eq_ok hread with rfl | rfl
  · exact .tag
  · exact .tagKey

end Relabel
