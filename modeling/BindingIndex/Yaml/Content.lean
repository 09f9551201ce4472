import BindingIndex.Value.NumberSet
import BindingIndex.Yaml.Node
import BindingIndex.Yaml.Number

/-!
# Contents

What the nodes of a document stand for: scalars have values, containers hold items, each a scalar or
another container by its number. So a container may hold itself, and one that is named many times is
there once. Merge keys take over the entries of other mappings first; of two equal keys the last
one's value stands at the first one's place.

* `Ref`, `Content`, `Contents`: what the nodes stand for.
* `Contents.ofGraph`: the contents of a graph, filled from its root on.
-/

namespace BindingIndex.Yaml

/-- An item of a container: a scalar, or a container by its number. -/
inductive Ref where
  | scalar (v : Value)
  | node (i : Nat)

inductive Content where
  | list (items : List Ref)
  | dict (entries : List (Value × Ref))
  | set (members : List Value)
  | pairs (items : List (Ref × Ref))

abbrev Contents := Array (Option Content)

/-- The containers so far: the graph, what is filled, which ones have been met, and what waits to be
filled, in order and, behind that, in reverse. -/
structure Making where
  graph : Graph
  contents : Contents
  met : Array Bool
  now : List Nat
  later : List Nat

/-- A step that makes values or fails. -/
abbrev Make := StateT Making (Except Fault)

namespace Make

def reject {α : Type} : Make α := throw .malformed

def node (i : Nat) : Make Node := return ((← get).graph[i]?).getD (.scalar .null [])

def tagOf : Node → Tag
  | .scalar t _ => t
  | .sequence t _ => t
  | .mapping t _ => t

def retag (t : Tag) : Node → Node
  | .scalar _ text => .scalar t text
  | .sequence _ items => .sequence t items
  | .mapping _ entries => .mapping t entries

/-- The text of a node of a scalar kind. A mapping stands for the text of its default-value key. -/
def scalarText : Nat → Nat → Make Text
  -- more steps than nodes: the way leads around in a circle
  | 0, _ => throw .endless
  | fuel + 1, i => do
    match ← node i with
    | .scalar _ text => return text
    | .sequence _ _ => reject
    | .mapping _ entries =>
      for (k, v) in entries do
        if tagOf (← node k) = .valueKey then return ← scalarText fuel v
      reject

def timestamp (n : Node) (text : Text) : Make Value :=
  match n with
  | .scalar _ _ => readTimestamp text
  | _ => throw .timestampMapping

/-- A container: it is filled later, once. -/
def container (i : Nat) : Make Ref := do
  modify fun m =>
    if m.met.getD i true then m
    else { m with met := m.met.setIfInBounds i true, later := i :: m.later }
  return .node i

def ref (i : Nat) : Make Ref := do
  let n ← node i
  let text := scalarText ((← get).graph.size + 1) i
  match tagOf n with
  | .null => discard text; return .scalar .null
  | .bool => return .scalar (.bool (← readBool (← text)))
  | .int => return .scalar (.int (← readInt (← text)))
  | .float => return .scalar (.float (← readFloat (← text)))
  | .text => return .scalar (.ofText (← text))
  | .binary => return .scalar (.bytes (← readBinary (← text)))
  | .timestamp => return .scalar (← timestamp n (← text))
  | .sequence => container i
  | .mapping => container i
  | .set => container i
  | .orderedMap => container i
  | .pairs => container i
  | .merge => reject
  | .valueKey => reject
  | .other _ => reject

/-! ## Merge keys -/

/-- A default-value key is a text when it is the key of an entry. -/
def plainKey (i : Nat) : Make Unit := do
  let n ← node i
  if tagOf n = .valueKey then
    modify fun m => { m with graph := m.graph.setIfInBounds i (retag .text n) }

/-- The first merge entry of a mapping, taken out. -/
def firstMerge : List (Nat × Nat) → Make (Option (Nat × List (Nat × Nat)))
  | [] => return none
  | (k, v) :: rest => do
    if tagOf (← node k) = .merge then return some (v, rest)
    plainKey k
    match ← firstMerge rest with
    | some (w, rest) => return some (w, (k, v) :: rest)
    | none => return none

def setEntries (i : Nat) (entries : List (Nat × Nat)) : Make Unit := do
  match ← node i with
  | .mapping t _ => modify fun m => { m with graph := m.graph.setIfInBounds i (.mapping t entries) }
  | _ => pure ()

def entriesOf (i : Nat) : Make (List (Nat × Nat)) := do
  match ← node i with
  | .mapping _ entries => return entries
  | _ => reject

mutual

/-- Replace the merge entries of a mapping by the entries they stand for, in front of its own. -/
def flatten : Nat → Nat → Make Unit
  | 0, _ => reject
  | fuel + 1, i => do
    let merged ← mergeAll fuel i []
    if merged != [] then setEntries i (merged ++ (← entriesOf i))

/-- Take out the merge entries of a mapping one by one and collect what they stand for. -/
def mergeAll : Nat → Nat → List (Nat × Nat) → Make (List (Nat × Nat))
  | 0, _, _ => reject
  | fuel + 1, i, merged => do
    match ← firstMerge (← entriesOf i) with
    | none => return merged
    | some (v, rest) =>
      -- taken out before it is followed: a mapping may merge itself
      setEntries i rest
      let more ← match ← node v with
        | .mapping _ _ => do
          flatten fuel v
          entriesOf v
        | .sequence _ items => mergeEach fuel items
        | .scalar _ _ => reject
      mergeAll fuel i (merged ++ more)

/-- The entries of a list of mappings, those of the last one first. -/
def mergeEach : Nat → List Nat → Make (List (Nat × Nat))
  | 0, _ => reject
  | _ + 1, [] => return []
  | fuel + 1, v :: rest => do
    match ← node v with
    | .mapping _ _ =>
      flatten fuel v
      let own ← entriesOf v
      return (← mergeEach fuel rest) ++ own
    | _ => reject

end

/-! ## Filling -/

/-- A key of a mapping. What is not a number is told apart by the node that it comes from, unless it
is written by its word, which always stands for the same. -/
structure Key where
  value : Value
  origin : Option Nat

def Key.same (a b : Key) : Bool :=
  match a.value, b.value with
  | .float x, .float y => if x.isNaN && y.isNaN then a.origin == b.origin else x == y
  | v, w => Value.sameKey v w

/-- The key that a node stands for; it has to be a scalar. -/
def key (i : Nat) : Make Key := do
  match ← ref i with
  | .node _ => reject
  | .scalar v =>
    let word := isNaNWord (← scalarText ((← get).graph.size + 1) i)
    return ⟨v, if word then none else some i⟩

/-- Put an entry into a mapping: an equal key keeps its place. -/
def putEntry (k : Key) (v : Ref) : List (Key × Ref) → List (Key × Ref)
  | [] => [(k, v)]
  | (l, w) :: rest => if l.same k then (l, v) :: rest else (l, w) :: putEntry k v rest

/-- The entries of a mapping, put into those that are made already. -/
def entries : List (Nat × Nat) → List (Key × Ref) → Make (List (Key × Ref))
  | [], made => return made
  | (k, v) :: rest, made => do
    let k ← key k
    entries rest (putEntry k (← ref v) made)

/-- The number of steps that merging may take. -/
def mergeFuel (g : Graph) : Nat :=
  4 * g.foldl (fun n x => match x with
    | .mapping _ es => n + es.length + 1
    | .sequence _ is => n + is.length + 1
    | .scalar _ _ => n + 1) 4

def mappingEntries (i : Nat) : Make (List (Value × Ref)) := do
  match ← node i with
  | .mapping _ _ =>
    flatten (mergeFuel (← get).graph) i
    return (← entries (← entriesOf i) []).map fun (k, v) => (k.value, v)
  | _ => reject

/-- The pairs of a sequence of mappings of one entry each. -/
def pairItems : List Nat → Make (List (Ref × Ref))
  | [] => return []
  | i :: rest => do
    match ← node i with
    | .mapping _ [(k, v)] =>
      let k ← ref k
      let v ← ref v
      return (k, v) :: (← pairItems rest)
    | _ => reject

def content (i : Nat) : Make Content := do
  let n ← node i
  match tagOf n, n with
  | .sequence, .sequence _ items => return .list (← items.mapM ref)
  | .mapping, _ => return .dict (← mappingEntries i)
  | .set, _ => return .set (Value.NumberSet.ordered ((← mappingEntries i).map (·.1)))
  | .orderedMap, .sequence _ items => return .pairs (← pairItems items)
  | .pairs, .sequence _ items => return .pairs (← pairItems items)
  | _, _ => reject

/-- The container that waits longest. -/
def nextWaiting : Make (Option Nat) := do
  let m ← get
  match m.now with
  | i :: rest =>
    set { m with now := rest }
    return some i
  | [] =>
    match m.later.reverse with
    | i :: rest =>
      set { m with now := rest, later := [] }
      return some i
    | [] => return none

def fillAll : Nat → Make Unit
  | 0 => pure ()
  | fuel + 1 => do
    match ← nextWaiting with
    | none => pure ()
    | some i =>
      let c ← content i
      modify fun m => { m with contents := m.contents.setIfInBounds i (some c) }
      fillAll fuel

end Make

/-- The contents of a graph as far as its root leads, and what the root stands for. -/
def Contents.ofGraph (g : Graph) (root : Nat) : Except Fault (Contents × Ref) := do
  let make : Make Ref := do
    let r ← Make.ref root
    Make.fillAll (g.size + 1)
    return r
  let (r, m) ← make.run ⟨g, .replicate g.size none, .replicate g.size false, [], []⟩
  return (m.contents, r)

end BindingIndex.Yaml
