import Relabel.Json.Source

/-!
# Reading values

The readers of single values, lists, optional values and tags, over the readable part of a
text. A text and a document in memory are read by the same rules but for three: only a text
bounds how many containers may be open at once, only a document in memory tells its length
before it is read, and a tag that is neither a string nor an object is a fault of notation in
a text and of content in memory.
-/

namespace Relabel.Json

inductive Route where
  /-- A text, in which fewer than `depth` more containers may be opened. -/
  | text (depth : Nat)
  | memory
  deriving DecidableEq, Repr

/-- A text is refused where it opens this many containers at once. -/
def maxDepth : Nat := 128

def Route.enter : Route → Except Fault Route
  | text depth => if depth ≤ 1 then .error (.form .tooDeep) else .ok (.text (depth - 1))
  | memory => .ok memory

def check (fault? : Option SyntaxFault) : Except Fault Unit :=
  match fault? with
  | some cause => .error (.form cause)
  | none => .ok ()

def readable {α : Type} : Except SyntaxFault α → Except Fault α
  | .ok a => .ok a
  | .error cause => .error (.form cause)

namespace Source

/-! ## Any value -/

mutual

def read (route : Route) : Source → Except Fault Json
  | null => .ok .null
  | bool b => .ok (.bool b)
  | number n => .number <$> readable n
  | text s => .text <$> readable s
  | array items ending => do
      let inner ← route.enter
      let items ← readItems inner items
      check ending.whenRead?
      return .array items
  | object members ending => do
      let inner ← route.enter
      let members ← readMembers inner members
      check ending.whenRead?
      return .object members
  | broken place => .error (.form place.whenRead)

def readItems (route : Route) : List Source → Except Fault (List Json)
  | [] => .ok []
  | item :: rest => do
      let item ← read route item
      let rest ← readItems route rest
      return item :: rest

def readMembers (route : Route) :
    List (Except SyntaxFault String × Source) → Except Fault (List (String × Json))
  | [] => .ok []
  | (key, value) :: rest => do
      let key ← readable key
      let value ← read route value
      let rest ← readMembers route rest
      return (key, value) :: rest

end

def readNormal (route : Route) (source : Source) : Except Fault Json :=
  Json.normalize <$> source.read route

mutual

/-- Skips a value: its notation is checked, but neither its depth nor whether its numbers and
strings stand for anything. -/
def skip : Source → Except Fault Unit
  | null | bool _ | number _ | text _ => .ok ()
  | array items ending => do
      skipItems items
      check ending.whenSkipped?
  | object members ending => do
      skipMembers members
      check ending.whenSkipped?
  | broken place => .error (.form place.whenSkipped)

def skipItems : List Source → Except Fault Unit
  | [] => .ok ()
  | item :: rest => do
      skip item
      skipItems rest

def skipMembers : List (Except SyntaxFault String × Source) → Except Fault Unit
  | [] => .ok ()
  | (_, value) :: rest => do
      skip value
      skipMembers rest

end

/-! ## Values of one kind -/

def readText : Source → Except Fault String
  | text s => readable s
  | source => source.refuse "a string"

def readFlag : Source → Except Fault Bool
  | bool b => .ok b
  | source => source.refuse "a boolean"

def readCode : Source → Except Fault UInt16
  | number (.ok (.whole n fits)) =>
      if 0 ≤ n ∧ n < 65536 then .ok (UInt16.ofNat n.toNat)
      else .error (.content (.wrongValue (.number (.whole n fits)) "u16"))
  | source => source.refuse "u16"

def readOptional {α : Type} (reader : Source → Except Fault α) : Source → Except Fault (Option α)
  | null => .ok none
  | source => some <$> reader source

def readList {α : Type} (route : Route) (reader : Route → Source → Except Fault α) :
    Source → Except Fault (List α)
  | array items ending => do
      let inner ← route.enter
      let values ← items.mapM (reader inner)
      check ending.whenRead?
      return values
  | source => source.refuse "a sequence"

/-! ## Tags -/

def findTag {α : Type} (tags : List (String × α)) (tag : String) : Except Fault α :=
  match tags.lookup tag with
  | some value => .ok value
  | none => .error (.content (.unknownTag tag (tags.map Prod.fst)))

def readUnit : Source → Except Fault Unit
  | null => .ok ()
  | source => source.refuse "unit"

/-- Reads a tag in a text: a string, or an object with the tag as its only key and `null` as
the value. Behind the brace the end of the text and what is no string are faults of an object,
as with any other key; only a brace that is closed at once lacks the value. -/
def readTagInText {α : Type} (tags : List (String × α)) (route : Route) :
    Source → Except Fault α
  | text s => do findTag tags (← readable s)
  | object members ending => do
      let _ ← route.enter
      match members with
      | [] => do
          check ending.whenRead?
          throw (.form .noValue)
      | (key, value) :: rest =>
          let found ← findTag tags (← readable key)
          readUnit value
          match rest, ending with
          | [], .closed => return found
          | [], .endOfText => .error (.form .endInObject)
          | _, _ => .error (.form .noValue)
  | broken place => .error (.form place.asTag)
  | _ => .error (.form .noValue)

def readTagInMemory {α : Type} (tags : List (String × α)) : Source → Except Fault α
  | text s => do findTag tags (← readable s)
  | object [(key, value)] _ => do
      let found ← findTag tags (← readable key)
      readUnit value
      return found
  | object _ _ => .error (.content (.wrongValue .object "map with a single key"))
  | source => source.refuse "string or map"

def readTag {α : Type} (tags : List (String × α)) (route : Route) (source : Source) :
    Except Fault α :=
  match route with
  | .text _ => readTagInText tags route source
  | .memory => readTagInMemory tags source

end Source

/-! ## Whole documents -/

def readTextWith {α : Type} (reader : Route → Source → Except Fault α) (text : String) :
    Except Fault α := do
  let (source, more) := Source.ofText text
  let value ← reader (.text maxDepth) source
  if more then throw (.form .textAfterValue)
  return value

def readJsonWith {α : Type} (reader : Route → Source → Except Fault α) (json : Json) :
    Except Fault α :=
  reader .memory (Source.ofJson json)

def parse (text : String) : Except Fault Json :=
  readTextWith (fun route source => source.readNormal route) text

end Relabel.Json
