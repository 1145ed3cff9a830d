import Relabel.Casing

/-!
# Events

What a renaming reports while it runs: the parts it comes to, and every name it changes.
-/

namespace Relabel

inductive Event where
  | started (casing : Casing) (models services : Nat)
  | convertingClient (convention : Convention)
  | convertingNames (models services : Nat)
  | convertingResults (service : String) (operations : Nat)
  | renamedModel (old new : String)
  | renamedMember (old new : String)
  deriving DecidableEq, Repr

namespace Event

inductive Level where
  | info
  | debug
  | trace
  deriving DecidableEq, Repr

def Level.text : Level → String
  | info => "INFO"
  | debug => "DEBUG"
  | trace => "TRACE"

def level : Event → Level
  | started .. => .info
  | convertingClient _ | convertingNames .. | convertingResults .. => .debug
  | renamedModel .. | renamedMember .. => .trace

def message : Event → String
  | started .. | convertingClient _ => "converting client"
  | convertingNames .. => "converting client names"
  | convertingResults .. => "converting service results"
  | renamedModel .. => "renamed model"
  | renamedMember .. => "renamed enum member"

inductive Value where
  | text (value : String)
  | count (value : Nat)
  deriving DecidableEq, Repr

def fields : Event → List (String × Value)
  | started casing models services =>
      [("name_case", .text casing.text), ("models", .count models),
        ("services", .count services)]
  | convertingClient convention => [("case", .text convention.text)]
  | convertingNames models services => [("models", .count models), ("services", .count services)]
  | convertingResults service operations =>
      [("service", .text service), ("operations", .count operations)]
  | renamedModel old new | renamedMember old new => [("from", .text old), ("to", .text new)]

/-- An event as a log shows it. -/
structure Entry where
  level : String
  message : String
  fields : List (String × Value)
  deriving DecidableEq, Repr

def entry (event : Event) : Entry :=
  ⟨event.level.text, event.message, event.fields⟩

end Event

structure Traced (α : Type) where
  value : α
  events : List Event
  deriving DecidableEq, Repr

namespace Traced

variable {α β : Type}

instance : Monad Traced where
  pure a := ⟨a, []⟩
  bind x f := ⟨(f x.value).value, x.events ++ (f x.value).events⟩

@[simp] theorem value_pure (a : α) : (pure a : Traced α).value = a := rfl

@[simp] theorem events_pure (a : α) : (pure a : Traced α).events = [] := rfl

@[simp] theorem value_bind (x : Traced α) (f : α → Traced β) :
    (x >>= f).value = (f x.value).value := rfl

@[simp] theorem events_bind (x : Traced α) (f : α → Traced β) :
    (x >>= f).events = x.events ++ (f x.value).events := rfl

def report (events : List Event) : Traced Unit := ⟨(), events⟩

@[simp] theorem value_report (events : List Event) : (report events).value = () := rfl

@[simp] theorem events_report (events : List Event) : (report events).events = events := rfl

def reportChange (event : String → String → Event) (old new : String) : Traced Unit :=
  report (if new = old then [] else [event old new])

def each (f : α → Traced β) : List α → Traced (List β)
  | [] => pure []
  | a :: rest => do
      let b ← f a
      let rest ← each f rest
      return b :: rest

end Traced

end Relabel
