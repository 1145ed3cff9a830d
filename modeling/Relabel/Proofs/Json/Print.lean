import Relabel.Proofs.Json.Depth
import Relabel.Proofs.Json.Scalar

/-!
# Written documents

A document whose numbers are whole is read from its text as it stands in memory, in both styles.
The layout of the text leaves no trace in the tokens, and the tokens nest as the document does.
-/

namespace Relabel.Json

/-! ## The tokens of a document -/

mutual

def tokensOf : Json → List Token
  | .null => [.null]
  | .bool b => [.bool b]
  | .number n => [.number (.ok n)]
  | .text s => [.text (.ok s)]
  | .array [] => [.openArray, .closeArray]
  | .array (item :: items) =>
      .openArray :: tokensOf item ++ tokensOfItems items ++ [.closeArray]
  | .object [] => [.openObject, .closeObject]
  | .object ((key, value) :: members) =>
      .openObject :: .text (.ok key) :: .colon :: tokensOf value ++ tokensOfMembers members ++
        [.closeObject]

def tokensOfItems : List Json → List Token
  | [] => []
  | item :: items => .comma :: tokensOf item ++ tokensOfItems items

def tokensOfMembers : List (String × Json) → List Token
  | [] => []
  | (key, value) :: members =>
      .comma :: .text (.ok key) :: .colon :: tokensOf value ++ tokensOfMembers members

end

theorem tokens_lineBreak (style : Style) (level : Nat) (rest : List Char) :
    tokens (style.lineBreak level ++ rest) = tokens rest := by
  have hspaces : ∀ n, tokens (List.replicate n ' ' ++ rest) = tokens rest := by
    intro n
    induction n with
    | zero => rfl
    | succ n ih => rw [List.replicate_succ, List.cons_append, tokens_cons, ih]; rfl
  cases style with
  | compact => rfl
  | pretty => rw [Style.lineBreak, List.cons_append, tokens_cons, hspaces]; rfl

theorem tokens_colon (style : Style) (rest : List Char) :
    tokens (style.colon ++ rest) = .colon :: tokens rest := by
  cases style <;> simp [Style.colon, tokens_cons, isSpace, scanToken]

theorem tokens_comma (rest : List Char) : tokens (',' :: rest) = .comma :: tokens rest := by
  simp [tokens_cons, isSpace, scanToken]

theorem tokens_openArray (rest : List Char) : tokens ('[' :: rest) = .openArray :: tokens rest := by
  simp [tokens_cons, isSpace, scanToken]

theorem tokens_closeArray (rest : List Char) :
    tokens (']' :: rest) = .closeArray :: tokens rest := by
  simp [tokens_cons, isSpace, scanToken]

theorem tokens_openObject (rest : List Char) :
    tokens ('\x7b' :: rest) = .openObject :: tokens rest := by
  simp [tokens_cons, isSpace, scanToken]

theorem tokens_closeObject (rest : List Char) :
    tokens ('\x7d' :: rest) = .closeObject :: tokens rest := by
  simp [tokens_cons, isSpace, scanToken]

theorem endsNumber_cons {c : Char} (hc : c.isDigit = false ∧ c ≠ '.' ∧ c ≠ 'e' ∧ c ≠ 'E')
    (rest : List Char) : EndsNumber (c :: rest) := by
  intro d hd
  cases hd
  exact hc

theorem endsNumber_lineBreak (style : Style) (level : Nat) {rest : List Char}
    (hrest : EndsNumber rest) : EndsNumber (style.lineBreak level ++ rest) := by
  cases style with
  | compact => exact hrest
  | pretty => exact endsNumber_cons (by decide) _

theorem endsNumber_renderItems (style : Style) (level : Nat) (items : List Json)
    {rest : List Char} (hrest : EndsNumber rest) :
    EndsNumber (renderItems style level items ++ rest) := by
  cases items with
  | nil => exact hrest
  | cons item items =>
      rw [renderItems]
      exact endsNumber_cons (by decide) _

theorem endsNumber_renderMembers (style : Style) (level : Nat) (members : List (String × Json))
    {rest : List Char} (hrest : EndsNumber rest) :
    EndsNumber (renderMembers style level members ++ rest) := by
  cases members with
  | nil => exact hrest
  | cons member members =>
      rw [renderMembers]
      exact endsNumber_cons (by decide) _

/-- The text of a document is scanned as its tokens, at every level of nesting. -/
def Scanned (document : Json) : Prop :=
  ∀ style level rest, EndsNumber rest →
    tokens (render style level document ++ rest) = tokensOf document ++ tokens rest

theorem tokens_renderItems {items : List Json} (h : ∀ item ∈ items, item.Scanned)
    (style : Style) (level : Nat) {rest : List Char} (hrest : EndsNumber rest) :
    tokens (renderItems style level items ++ rest) = tokensOfItems items ++ tokens rest := by
  induction items with
  | nil => rfl
  | cons item items ih =>
      obtain ⟨hitem, hitems⟩ := List.forall_mem_cons.mp h
      simp only [renderItems, tokensOfItems, List.cons_append, List.append_assoc, tokens_comma,
        tokens_lineBreak]
      rw [hitem style level _ (endsNumber_renderItems style level items hrest), ih hitems]

theorem tokens_renderMembers {members : List (String × Json)}
    (h : ∀ member ∈ members, member.2.Scanned) (style : Style) (level : Nat) {rest : List Char}
    (hrest : EndsNumber rest) :
    tokens (renderMembers style level members ++ rest) = tokensOfMembers members ++ tokens rest := by
  induction members with
  | nil => rfl
  | cons member members ih =>
      obtain ⟨hvalue, hmembers⟩ := List.forall_mem_cons.mp h
      simp only [renderMembers, tokensOfMembers, List.cons_append, List.append_assoc,
        tokens_comma, tokens_lineBreak, tokens_quote, tokens_colon]
      rw [hvalue style level _ (endsNumber_renderMembers style level members hrest), ih hmembers]

theorem scanned_of_whole {document : Json} (h : document.Whole) : document.Scanned := by
  induction document using induction_on_parts with
  | step document ih =>
      intro style level rest hrest
      cases document with
      | null => exact tokens_null rest
      | bool b =>
          cases b with
          | false => exact tokens_false rest
          | true => exact tokens_true rest
      | number n =>
          obtain ⟨value, fits, rfl⟩ := h n .self
          exact tokens_toString fits hrest
      | text s => exact tokens_quote s rest
      | array items =>
          have hparts : ∀ item ∈ items, item.Scanned :=
            fun item hitem => ih item hitem (h.part hitem)
          cases items with
          | nil => simp [render, tokensOf, tokens_openArray, tokens_closeArray]
          | cons item items =>
              obtain ⟨hitem, hitems⟩ := List.forall_mem_cons.mp hparts
              have hclose : EndsNumber (style.lineBreak level ++ ']' :: rest) :=
                endsNumber_lineBreak style level (endsNumber_cons (by decide) rest)
              simp only [render, tokensOf, List.cons_append, List.append_assoc, List.nil_append,
                tokens_openArray, tokens_lineBreak]
              rw [hitem style _ _ (endsNumber_renderItems style _ items hclose),
                tokens_renderItems hitems style _ hclose, tokens_lineBreak, tokens_closeArray]
      | object members =>
          have hparts : ∀ member ∈ members, member.2.Scanned := by
            intro member hmember
            have hpart := mem_parts_of_mem_members hmember
            exact ih member.2 hpart (h.part hpart)
          cases members with
          | nil => simp [render, tokensOf, tokens_openObject, tokens_closeObject]
          | cons member members =>
              obtain ⟨hvalue, hmembers⟩ := List.forall_mem_cons.mp hparts
              have hclose : EndsNumber (style.lineBreak level ++ '\x7d' :: rest) :=
                endsNumber_lineBreak style level (endsNumber_cons (by decide) rest)
              simp only [render, tokensOf, List.cons_append, List.append_assoc, List.nil_append,
                tokens_openObject, tokens_lineBreak, tokens_quote, tokens_colon]
              rw [hvalue style _ _ (endsNumber_renderMembers style _ members hclose),
                tokens_renderMembers hmembers style _ hclose, tokens_lineBreak,
                tokens_closeObject]

theorem tokens_print {document : Json} (h : document.Whole) (style : Style) :
    tokens (document.print style).toList = tokensOf document := by
  have hend : EndsNumber [] := by simp [EndsNumber]
  have hscanned := scanned_of_whole h style 0 [] hend
  rw [print, String.toList_ofList]
  simpa using hscanned

/-! ## From the tokens to the document -/

namespace Source

theorem tokensOf_eq_cons (document : Json) :
    ∃ t more, tokensOf document = t :: more ∧ t ≠ .closeArray ∧ t ≠ .closeObject := by
  rcases document with _ | _ | _ | _ | (_ | ⟨item, items⟩) | (_ | ⟨member, members⟩)
  all_goals exact ⟨_, _, rfl, nofun, nofun⟩

theorem valueOf_openArray {steps : Nat} {more : List Token} {t : Token} (ht : t ≠ .closeArray) :
    valueOf (steps + 1) (.openArray :: t :: more) =
      (.array (itemsOf steps (t :: more)).1 (itemsOf steps (t :: more)).2.1,
        (itemsOf steps (t :: more)).2.2) := by
  cases t <;> first | rfl | contradiction

theorem valueOf_openObject (steps : Nat) (key : Except SyntaxFault String) (more : List Token) :
    valueOf (steps + 1) (.openObject :: .text key :: more) =
      (.object (membersOf steps (.text key :: more)).1 (membersOf steps (.text key :: more)).2.1,
        (membersOf steps (.text key :: more)).2.2) := rfl

theorem itemsOf_more {steps : Nat} {tokens more : List Token} {item : Source} {t : Token}
    (hvalue : valueOf steps tokens = (item, .comma :: t :: more)) (ht : t ≠ .closeArray) :
    itemsOf (steps + 1) tokens =
      (item :: (itemsOf steps (t :: more)).1, (itemsOf steps (t :: more)).2) := by
  rw [itemsOf, hvalue]
  cases t <;> first | rfl | contradiction

theorem membersOf_more {steps : Nat} {tokens more : List Token} {value : Source} {t : Token}
    (key : Except SyntaxFault String)
    (hvalue : valueOf steps tokens = (value, .comma :: t :: more)) (ht : t ≠ .closeObject) :
    membersOf (steps + 1) (.text key :: .colon :: tokens) =
      ((key, value) :: (membersOf steps (t :: more)).1, (membersOf steps (t :: more)).2) := by
  rw [membersOf, hvalue]
  cases t <;> first | rfl | contradiction

def Nested (document : Json) : Prop :=
  ∀ steps rest, (tokensOf document).length ≤ steps →
    valueOf steps (tokensOf document ++ rest) = (ofJson document, rest)

theorem itemsOf_tokensOfItems {item : Json} {items : List Json} (hitem : Nested item)
    (hitems : ∀ item ∈ items, Nested item) (steps : Nat) (rest : List Token)
    (hsteps : (tokensOf item).length + (tokensOfItems items).length < steps) :
    itemsOf steps (tokensOf item ++ (tokensOfItems items ++ .closeArray :: rest)) =
      (ofItems (item :: items), .closed, rest) := by
  induction items generalizing item steps with
  | nil =>
      obtain ⟨steps, rfl⟩ := Nat.exists_eq_add_one_of_ne_zero (Nat.ne_zero_of_lt hsteps)
      rw [itemsOf, hitem _ _ (by omega)]
      rfl
  | cons next items ih =>
      obtain ⟨hnext, hitems⟩ := List.forall_mem_cons.mp hitems
      obtain ⟨steps, rfl⟩ := Nat.exists_eq_add_one_of_ne_zero (Nat.ne_zero_of_lt hsteps)
      simp only [tokensOfItems, List.length_append, List.length_cons] at hsteps
      have hrest := ih hnext hitems steps (by omega)
      have hvalue := hitem steps (tokensOfItems (next :: items) ++ .closeArray :: rest) (by omega)
      obtain ⟨t, more, hcons, ht, -⟩ := tokensOf_eq_cons next
      simp only [tokensOfItems, List.cons_append, List.append_assoc] at hvalue ⊢
      rw [hcons, List.cons_append] at hvalue hrest ⊢
      rw [itemsOf_more hvalue ht, hrest]
      rfl

theorem membersOf_tokensOfMembers (key : String) {value : Json} {members : List (String × Json)}
    (hvalue : Nested value) (hmembers : ∀ member ∈ members, Nested member.2) (steps : Nat)
    (rest : List Token)
    (hsteps : (tokensOf value).length + (tokensOfMembers members).length < steps) :
    membersOf steps (.text (.ok key) :: .colon ::
        (tokensOf value ++ (tokensOfMembers members ++ .closeObject :: rest))) =
      (ofMembers ((key, value) :: members), .closed, rest) := by
  induction members generalizing key value steps with
  | nil =>
      obtain ⟨steps, rfl⟩ := Nat.exists_eq_add_one_of_ne_zero (Nat.ne_zero_of_lt hsteps)
      rw [membersOf, hvalue _ _ (by omega)]
      rfl
  | cons next members ih =>
      obtain ⟨hnext, hmembers⟩ := List.forall_mem_cons.mp hmembers
      obtain ⟨steps, rfl⟩ := Nat.exists_eq_add_one_of_ne_zero (Nat.ne_zero_of_lt hsteps)
      simp only [tokensOfMembers, List.length_append, List.length_cons] at hsteps
      have hrest := ih next.1 hnext hmembers steps (by omega)
      have hvalue :=
        hvalue steps (tokensOfMembers (next :: members) ++ .closeObject :: rest) (by omega)
      simp only [tokensOfMembers, List.cons_append, List.append_assoc] at hvalue ⊢
      rw [membersOf_more (.ok key) hvalue nofun, hrest]
      rfl

theorem nested (document : Json) : Nested document := by
  induction document using Json.induction_on_parts with
  | step document ih =>
      intro steps rest hsteps
      obtain ⟨t, more, hcons, -, -⟩ := tokensOf_eq_cons document
      have hpos : steps ≠ 0 := by
        rw [hcons, List.length_cons] at hsteps
        omega
      obtain ⟨steps, rfl⟩ := Nat.exists_eq_add_one_of_ne_zero hpos
      rcases document with _ | b | n | s | (_ | ⟨item, items⟩) | (_ | ⟨⟨key, value⟩, members⟩)
      case array.cons =>
        obtain ⟨hitem, hitems⟩ := List.forall_mem_cons.mp ih
        simp only [tokensOf, List.length_append, List.length_cons, List.length_nil] at hsteps
        have hlist := itemsOf_tokensOfItems hitem hitems steps rest (by omega)
        obtain ⟨t, more, hcons, ht, -⟩ := tokensOf_eq_cons item
        simp only [tokensOf, List.cons_append, List.append_assoc, List.nil_append]
        rw [hcons, List.cons_append] at hlist ⊢
        rw [valueOf_openArray ht, hlist]
        rfl
      case object.cons =>
        have hvalue : Nested value := ih value (.head _)
        have hmembers : ∀ member ∈ members, Nested member.2 :=
          fun member hmember => ih member.2 (mem_parts_of_mem_members (.tail _ hmember))
        simp only [tokensOf, List.length_append, List.length_cons, List.length_nil] at hsteps
        have hlist := membersOf_tokensOfMembers key hvalue hmembers steps rest (by omega)
        simp only [tokensOf, List.cons_append, List.append_assoc, List.nil_append]
        rw [valueOf_openObject, hlist]
        rfl
      all_goals rfl

theorem ofText_print {document : Json} (h : document.Whole) (style : Style) :
    ofText (document.print style) = (ofJson document, false) := by
  have hnested := nested document (2 * (tokensOf document).length + 1) [] (by omega)
  rw [List.append_nil] at hnested
  simp only [ofText, tokens_print h, hnested]
  rfl

end Source

theorem readTextWith_print {α : Type} (reader : Route → Source → Except Fault α)
    {document : Json} (h : document.Whole) (style : Style) :
    readTextWith reader (document.print style) =
      reader (.text maxDepth) (Source.ofJson document) :=
  readTextWith_of_ofText (Source.ofText_print h style)

theorem readDocument_print {document : Json} (h : document.Whole)
    (hdepth : document.depth < maxDepth) (style : Style) : readDocument (document.print style) = .ok document :=
  readDocument_eq_ok_iff.mpr ⟨Source.ofText_print h style, hdepth⟩

end Relabel.Json
