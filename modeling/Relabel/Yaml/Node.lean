import Relabel.Yaml.Token

/-!
# Nodes of a YAML text

A text of one document is a tree of scalars, sequences and mappings. An alias stands for the
node that its anchor names, the last one of that name before it.
-/

namespace Relabel.Yaml

inductive Node where
  | scalar (plain : Bool) (tag? : Option Tag) (text : String)
  | sequence (items : List Node)
  | mapping (entries : List (Node × Node))
  | cycle
  deriving Inhabited

def Node.missing : Node := .scalar true none "~"

structure Reading where
  tokens : List Token
  names : List (String × Nat) := []
  nodes : List (Nat × Node) := []
  next : Nat := 1

namespace Reading

def skip (reading : Reading) : Reading :=
  { reading with tokens := reading.tokens.drop 1 }

def addAnchor (reading : Reading) (name : String) : Reading :=
  { reading.skip with names := (name, reading.next) :: reading.names, next := reading.next + 1 }

def keep (reading : Reading) (anchor? : Option Nat) (node : Node) : Reading :=
  match anchor? with
  | some anchor => { reading with nodes := (anchor, node) :: reading.nodes }
  | none => reading

def takeProperties (reading : Reading) : Option Nat × Option Tag × Reading :=
  match reading.tokens with
  | .anchor name :: .tag tag :: _ => (some reading.next, some tag, (reading.addAnchor name).skip)
  | .anchor name :: _ => (some reading.next, none, reading.addAnchor name)
  | .tag tag :: .anchor name :: _ => (some reading.next, some tag, reading.skip.addAnchor name)
  | .tag tag :: _ => (none, some tag, reading.skip)
  | _ => (none, none, reading)

def atMappingPart (reading : Reading) : Bool :=
  match reading.tokens with
  | .key :: _ | .value :: _ | .blockEnd :: _ => true
  | _ => false

/-- Only an anchor or a tag can stand for a node by itself. -/
def readEmpty (anchor? : Option Nat) (tag? : Option Tag) (reading : Reading) :
    Option (Node × Reading) :=
  if anchor?.isSome || tag?.isSome then some (.scalar true tag? "", reading) else none

mutual

/-- Reads a node. `block` allows block collections, `dashes` a block sequence that is not
indented further than the mapping around it. The first argument bounds the number of steps. -/
def readNode (block dashes : Bool) : Nat → Reading → Option (Node × Reading)
  | 0, _ => none
  | steps + 1, reading =>
      match reading.tokens with
      | .alias name :: _ => do
          let anchor ← reading.names.lookup name
          return ((reading.nodes.lookup anchor).getD .cycle, reading.skip)
      | _ => do
          let (anchor?, tag?, reading) := reading.takeProperties
          let (node, reading) ← match reading.tokens with
            | .entry :: _ =>
                if dashes then do
                  let (items, reading) ← readDashes steps reading
                  pure (Node.sequence items, reading)
                else readEmpty anchor? tag? reading
            | .scalar plain text :: _ => pure (.scalar plain tag? text, reading.skip)
            | .flowSequence :: _ => do
                let (items, reading) ← readFlowItems true steps reading.skip
                pure (.sequence items, reading)
            | .flowMapping :: _ => do
                let (entries, reading) ← readFlowEntries true steps reading.skip
                pure (.mapping entries, reading)
            | .blockSequence :: _ =>
                if block then do
                  let (items, reading) ← readBlockItems steps reading.skip
                  pure (.sequence items, reading)
                else readEmpty anchor? tag? reading
            | .blockMapping :: _ =>
                if block then do
                  let (entries, reading) ← readBlockEntries steps reading.skip
                  pure (.mapping entries, reading)
                else readEmpty anchor? tag? reading
            | _ => readEmpty anchor? tag? reading
          return (node, reading.keep anchor? node)

def readBlockItems : Nat → Reading → Option (List Node × Reading)
  | 0, _ => none
  | steps + 1, reading =>
      match reading.tokens with
      | .blockEnd :: _ => some ([], reading.skip)
      | .entry :: rest => do
          let reading := reading.skip
          let (item, reading) ← match rest with
            | .entry :: _ | .blockEnd :: _ => pure (Node.missing, reading)
            | _ => readNode true false steps reading
          let (items, reading) ← readBlockItems steps reading
          return (item :: items, reading)
      | _ => none

def readDashes : Nat → Reading → Option (List Node × Reading)
  | 0, _ => none
  | steps + 1, reading =>
      match reading.tokens with
      | .entry :: rest => do
          let reading := reading.skip
          let (item, reading) ← match rest with
            | .entry :: _ | .key :: _ | .value :: _ | .blockEnd :: _ =>
                pure (Node.missing, reading)
            | _ => readNode true false steps reading
          let (items, reading) ← readDashes steps reading
          return (item :: items, reading)
      | _ => some ([], reading)

def readBlockEntries : Nat → Reading → Option (List (Node × Node) × Reading)
  | 0, _ => none
  | steps + 1, reading =>
      match reading.tokens with
      | .blockEnd :: _ => some ([], reading.skip)
      | .key :: _ => do
          let reading := reading.skip
          let (key, reading) ←
            if reading.atMappingPart then pure (Node.missing, reading)
            else readNode true true steps reading
          let (value, reading) ← readBlockValue steps reading
          let (entries, reading) ← readBlockEntries steps reading
          return ((key, value) :: entries, reading)
      | .value :: _ => do
          let (value, reading) ← readBlockValue steps reading
          let (entries, reading) ← readBlockEntries steps reading
          return ((.missing, value) :: entries, reading)
      | _ => none

def readBlockValue : Nat → Reading → Option (Node × Reading)
  | 0, _ => none
  | steps + 1, reading =>
      match reading.tokens with
      | .value :: _ =>
          let reading := reading.skip
          if reading.atMappingPart then some (.missing, reading)
          else readNode true true steps reading
      | _ => some (.missing, reading)

def readFlowEntries (first : Bool) : Nat → Reading → Option (List (Node × Node) × Reading)
  | 0, _ => none
  | steps + 1, reading =>
      match reading.tokens, first with
      | .flowMappingEnd :: _, _ => some ([], reading.skip)
      | .comma :: _, false => readFlowEntry steps reading.skip
      | _, true => readFlowEntry steps reading
      | _, false => none

def readFlowEntry : Nat → Reading → Option (List (Node × Node) × Reading)
  | 0, _ => none
  | steps + 1, reading =>
      match reading.tokens with
      | .flowMappingEnd :: _ => some ([], reading.skip)
      | .key :: rest => do
          let reading := reading.skip
          let (key, reading) ← match rest with
            | .value :: _ | .comma :: _ | .flowMappingEnd :: _ => pure (Node.missing, reading)
            | _ => readNode false false steps reading
          let (value, reading) ← readFlowValue steps reading
          let (entries, reading) ← readFlowEntries false steps reading
          return ((key, value) :: entries, reading)
      | .value :: _ => do
          let (value, reading) ← readFlowValue steps reading
          let (entries, reading) ← readFlowEntries false steps reading
          return ((.missing, value) :: entries, reading)
      | _ => do
          let (key, reading) ← readNode false false steps reading
          let (entries, reading) ← readFlowEntries false steps reading
          return ((key, .missing) :: entries, reading)

def readFlowValue : Nat → Reading → Option (Node × Reading)
  | 0, _ => none
  | steps + 1, reading =>
      match reading.tokens with
      | .value :: rest =>
          match rest with
          | .comma :: _ | .flowMappingEnd :: _ => some (.missing, reading.skip)
          | _ => readNode false false steps reading.skip
      | _ => some (.missing, reading)

def readFlowItems (first : Bool) : Nat → Reading → Option (List Node × Reading)
  | 0, _ => none
  | steps + 1, reading =>
      match reading.tokens, first with
      | .flowSequenceEnd :: _, _ => some ([], reading.skip)
      | .comma :: _, false => readFlowItem steps reading.skip
      | _, true => readFlowItem steps reading
      | _, false => none

def readFlowItem : Nat → Reading → Option (List Node × Reading)
  | 0, _ => none
  | steps + 1, reading =>
      match reading.tokens with
      | .flowSequenceEnd :: _ => some ([], reading.skip)
      | .key :: rest => do
          let reading := reading.skip
          let (key, reading) ← match rest with
            | .value :: _ | .comma :: _ | .flowSequenceEnd :: _ =>
                pure (Node.missing, reading.skip)
            | _ => readNode false false steps reading
          let (value, reading) ← match reading.tokens with
            | .value :: .comma :: _ | .value :: .flowSequenceEnd :: _ =>
                pure (Node.missing, reading.skip)
            | .value :: _ => readNode false false steps reading.skip
            | _ => pure (Node.missing, reading)
          let (items, reading) ← readFlowItems false steps reading
          return (.mapping [(key, value)] :: items, reading)
      | _ => do
          let (item, reading) ← readNode false false steps reading
          let (items, reading) ← readFlowItems false steps reading
          return (item :: items, reading)

end

def skipDirectives (reading : Reading) : Reading :=
  { reading with tokens := reading.tokens.dropWhile (· == .directive) }

def readDocument (steps : Nat) (reading : Reading) : Option (Node × Reading) :=
  match reading.tokens with
  | .directive :: _ | .documentStart :: _ =>
      let reading := reading.skipDirectives
      match reading.tokens with
      | .documentStart :: rest =>
          match rest with
          | [] | .directive :: _ | .documentStart :: _ | .documentEnd :: _ =>
              some (.missing, reading.skip)
          | _ => readNode true false steps reading.skip
      | _ => none
  | [] => none
  | _ => readNode true false steps reading

end Reading

def Node.ofText? (text : String) : Option Node := do
  let tokens ← tokens? text
  let (node, reading) ← Reading.readDocument (3 * tokens.length + 3) { tokens }
  if reading.tokens.all (· == .documentEnd) then some node else none

end Relabel.Yaml
