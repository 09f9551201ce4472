import BindingIndex.Yaml.Tag
import BindingIndex.Yaml.Token

/-!
# Nodes

A document as a graph of nodes. A node is named by its number; an alias stands for the number of the
anchored node, so a node may be reached from inside itself.

* `Node`, `Graph`: the nodes.
* `Graph.ofTokens`: the graph and the root of a sequence of tokens, which has to hold one document
  or none.
-/

namespace BindingIndex.Yaml

inductive Node where
  | scalar (tag : Tag) (text : Text)
  | sequence (tag : Tag) (items : List Nat)
  | mapping (tag : Tag) (entries : List (Nat × Nat))
  deriving Repr

abbrev Graph := Array Node

/-- What is known while tokens are read: those that are left, the fault behind them if there is one,
the nodes and anchors so far and the tag handles in force. -/
structure Reader where
  tokens : List Token
  fault : Option Fault
  nodes : Graph
  anchors : List (String × Nat)
  handles : List (String × String)

abbrev Read := StateT Reader (Except Fault)

namespace Read

def reject {α : Type} : Read α := throw .malformed

def peek : Read Token := do
  let r ← get
  match r.tokens, r.fault with
  | t :: _, _ => return t
  | [], some f => throw f
  | [], none => return .streamEnd

def drop : Read Unit := modify fun r => { r with tokens := r.tokens.tail }

/-- Consume the next token if it is the given one. -/
def accept (t : Token) : Read Bool := do
  if (← peek) = t then
    drop
    return true
  else return false

def nextIn (ts : List Token) : Read Bool := return ts.contains (← peek)

def add (n : Node) : Read Nat := do
  let r ← get
  set { r with nodes := r.nodes.push n }
  return r.nodes.size

/-- Give a node that was added before its content. -/
def fill (i : Nat) (n : Node) : Read Unit :=
  modify fun r => { r with nodes := r.nodes.setIfInBounds i n }

/-- Name a node; a name can be given once. -/
def anchor (name : Option String) (i : Nat) : Read Unit := do
  match name with
  | none => pure ()
  | some a => modify fun r => { r with anchors := (a, i) :: r.anchors }

/-- Fail if the name is taken. -/
def fresh (name : Option String) : Read Unit := do
  match name with
  | none => pure ()
  | some a => if ((← get).anchors.lookup a).isSome then reject

def emptyScalar : Read Nat := add (.scalar .null [])

def fullTag : Option String → String → Read String
  | none, suffix => return suffix
  | some handle, suffix => do
    match (← get).handles.lookup handle with
    | some start => return start ++ suffix
    | none => reject

/-- The anchor and the tag before a node, in either order. -/
def properties : Read (Option String × Option String) := do
  match ← peek with
  | .anchor a =>
    drop
    match ← peek with
    | .tag h s => drop; return (some a, some (← fullTag h s))
    | _ => return (some a, none)
  | .tag h s =>
    drop
    match ← peek with
    | .anchor a => drop; return (some a, some (← fullTag h s))
    | _ => return (none, some (← fullTag h s))
  | _ => return (none, none)

def collectionTag (usual : Tag) : Option String → Tag
  | none => usual
  | some t => if t = "!" then usual else .ofUri t

/-- The kind of a scalar: by its tag, or by its text where it is plain or marked as such. -/
def scalarTag (text : Text) (plain : Bool) : Option String → Tag
  | none => if plain then .ofPlain text.shown else .text
  | some t => if t = "!" then .ofPlain text.shown else .ofUri t

mutual

/-- A node. In a block context it may be a block collection, and where `indentless` a sequence whose
dashes stand at the indentation of the mapping around it. -/
def node (block indentless : Bool) : Nat → Read Nat
  | 0 => reject
  | fuel + 1 => do
    match ← peek with
    | .alias name =>
      drop
      match (← get).anchors.lookup name with
      | some i => return i
      | none => reject
    | _ =>
      let (name, tag) ← properties
      -- a collection is named before its items are read, so it may be among them
      let collection := fun (usual : Tag) (make : Tag → Nat → Read Unit) => do
        fresh name
        let i ← emptyScalar
        anchor name i
        make (collectionTag usual tag) i
        return i
      match ← peek with
      | .scalar text plain =>
        drop
        fresh name
        let i ← add (.scalar (scalarTag text plain tag) text)
        anchor name i
        return i
      | .flowSequenceStart =>
        collection .sequence fun t i => do
          drop
          fill i (.sequence t (← flowSequence true fuel))
      | .flowMappingStart =>
        collection .mapping fun t i => do
          drop
          fill i (.mapping t (← flowMapping true fuel))
      | .blockSequenceStart =>
        if !block then reject
        collection .sequence fun t i => do
          drop
          fill i (.sequence t (← blockSequence fuel))
      | .blockMappingStart =>
        if !block then reject
        collection .mapping fun t i => do
          drop
          fill i (.mapping t (← blockMapping fuel))
      | next =>
        if indentless && next = .blockEntry then
          collection .sequence fun t i => do
            fill i (.sequence t (← indentlessSequence fuel))
        else if name.isSome || tag.isSome then
          fresh name
          let i ← add (.scalar (scalarTag [] true tag) [])
          anchor name i
          return i
        else reject

/-- A node unless one of these tokens follows. -/
def nodeUnless (ends : List Token) (block indentless : Bool) : Nat → Read Nat
  | 0 => reject
  | fuel + 1 => do
    if ← nextIn ends then emptyScalar else node block indentless fuel

def blockSequence : Nat → Read (List Nat)
  | 0 => reject
  | fuel + 1 => do
    if ← accept .blockEntry then
      let i ← nodeUnless [.blockEntry, .blockEnd] true false fuel
      return i :: (← blockSequence fuel)
    else if ← accept .blockEnd then return []
    else reject

/-- The entries of a sequence at the indentation of the mapping around it. -/
def indentlessSequence : Nat → Read (List Nat)
  | 0 => reject
  | fuel + 1 => do
    if ← accept .blockEntry then
      let i ← nodeUnless [.blockEntry, .key, .value, .blockEnd] true false fuel
      return i :: (← indentlessSequence fuel)
    else return []

def blockMapping : Nat → Read (List (Nat × Nat))
  | 0 => reject
  | fuel + 1 => do
    let ends := [Token.key, .value, .blockEnd]
    if ← accept .key then
      let k ← nodeUnless ends true true fuel
      let v ← if ← accept .value then nodeUnless ends true true fuel else emptyScalar
      return (k, v) :: (← blockMapping fuel)
    else if ← accept .blockEnd then return []
    else reject

/-- The items of a flow sequence up to its end; a key in it makes a mapping of one entry. -/
def flowSequence (first : Bool) : Nat → Read (List Nat)
  | 0 => reject
  | fuel + 1 => do
    if ← accept .flowSequenceEnd then return []
    if !first then
      if !(← accept .flowEntry) then reject
    if ← accept .key then
      let i ← emptyScalar
      let k ← nodeUnless [.value, .flowEntry, .flowSequenceEnd] false false fuel
      let v ← if ← accept .value then
          nodeUnless [.flowEntry, .flowSequenceEnd] false false fuel
        else emptyScalar
      fill i (.mapping .mapping [(k, v)])
      return i :: (← flowSequence false fuel)
    else if ← accept .flowSequenceEnd then return []
    else
      let i ← node false false fuel
      return i :: (← flowSequence false fuel)

def flowMapping (first : Bool) : Nat → Read (List (Nat × Nat))
  | 0 => reject
  | fuel + 1 => do
    if ← accept .flowMappingEnd then return []
    if !first then
      if !(← accept .flowEntry) then reject
    if ← accept .key then
      let k ← nodeUnless [.value, .flowEntry, .flowMappingEnd] false false fuel
      let v ← if ← accept .value then
          nodeUnless [.flowEntry, .flowMappingEnd] false false fuel
        else emptyScalar
      return (k, v) :: (← flowMapping false fuel)
    else if ← accept .flowMappingEnd then return []
    else
      let k ← node false false fuel
      let v ← emptyScalar
      return (k, v) :: (← flowMapping false fuel)

end

/-- The handles that are in force without a directive. -/
def standardHandles : List (String × String) := [("!", "!"), ("!!", Tag.standard)]

/-- Read directives; a version may be given once and has to be 1, a handle may be given once. -/
def directives : Nat → Bool → List (String × String) → Read (List (String × String))
  | 0, _, _ => reject
  | fuel + 1, versioned, handles => do
    match ← peek with
    | .directive d =>
      drop
      match d with
      | .version major =>
        if versioned || major != 1 then reject
        directives fuel true handles
      | .tag handle start =>
        if (handles.lookup handle).isSome then reject
        directives fuel versioned (handles ++ [(handle, start)])
      | .other => directives fuel versioned handles
    | _ => return handles ++ standardHandles

def documentEnds : Nat → Read Unit
  | 0 => pure ()
  | fuel + 1 => do
    if ← accept .documentEnd then documentEnds fuel

def documentStart (fuel : Nat) : Read Unit := do
  let handles ← directives fuel false []
  modify fun r => { r with handles := handles }
  if !(← accept .documentStart) then reject

/-- Does the token start a document with a marker, or none? -/
def isStart : Token → Bool
  | .directive _ => true
  | t => [Token.documentStart, .streamEnd].contains t

/-- The root of the only document, if there is one. -/
def document (fuel : Nat) : Read (Option Nat) := do
  let root ← do
    if isStart (← peek) then
      if (← peek) = .streamEnd then pure none
      else
        documentStart fuel
        let next ← peek
        if isStart next || next = .documentEnd then some <$> emptyScalar
        else some <$> node true false fuel
    else some <$> node true false fuel
  documentEnds fuel
  if (← peek) = .streamEnd then return root
  documentStart fuel
  reject

end Read

def Graph.ofTokens (tokens : Tokens) : Except Fault (Graph × Option Nat) := do
  let fuel := 4 * tokens.items.length + 8
  let (root, r) ← (Read.document fuel).run
    ⟨tokens.items, tokens.fault, #[], [], Read.standardHandles⟩
  return (r.nodes, root)

end BindingIndex.Yaml
