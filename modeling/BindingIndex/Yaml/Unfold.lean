import BindingIndex.Yaml.Content

/-!
# Unfolding

A document may name a container many times, so that as a tree it is far longer than its text. What
is validated lies at most two containers below the root; everything below shows only in messages, as
the two ends of a text. So the containers down there are unfolded no further than those ends reach.
What is left out in the middle was out of sight; an integer that is too long to be printed stays in
sight, since no container around it can be printed.

* `Contents.length`: the length of the text of an item, as far as it counts.
* `Contents.ends`: the value of an item with the two ends of its text.
* `Contents.value`: the value of a document.
-/

namespace BindingIndex.Yaml.Contents

/-- The bytes at the start of a text that may show, one more than any text that is not cut. -/
def headBytes : Nat := 51

def tailBytes : Nat := 24

/-! ## Lengths -/

/-- The bytes of a container that is met inside itself. -/
def closedBytes : Nat := 5

/-- Add up lengths, up to a limit; nothing behind the limit is looked at. -/
def total {α : Type} (size : Nat → α → Nat) : Nat → List α → Nat
  | _, [] => 0
  | 0, _ => 0
  | limit, x :: rest =>
    let n := size limit x
    n + total size (limit - n) rest

/-- The length of the text of an item inside the containers of `path`, or at least `limit` if it is
longer. Brackets and the marks between items count, so that every level of containers takes up some
of the limit. -/
def length (cs : Contents) : Nat → List Nat → Nat → Ref → Nat
  | 0, _, limit, _ => limit
  | _ + 1, _, _, .scalar v => Text.Utf8.size v.literal
  | fuel + 1, path, limit, .node i =>
    if path.contains i then closedBytes
    else
      let item := fun limit r => length cs fuel (i :: path) limit r + 2
      match (cs[i]?).join with
      | some (.list items) => total item (limit - 2) items
      | some (.dict es) =>
        total (fun limit (k, r) => Text.Utf8.size k.literal + item limit r + 2) (limit - 2) es
      | some (.set members) => total (fun _ v => Text.Utf8.size v.literal + 2) (limit - 2) members
      | some (.pairs ps) => total (fun limit (a, b) => item limit a + item limit b) (limit - 2) ps
      | none => closedBytes

/-! ## Ends -/

/-- What of a limit is left at each of the things that share it, the first one first. -/
def shares {α : Type} (size : Nat → α → Nat) : Nat → List α → List Nat
  | _, [] => []
  | 0, _ :: rest => 0 :: shares size 0 rest
  | limit, x :: rest => limit :: shares size (limit - size limit x) rest

/-- The things with what is left for them of the limits of both ends. -/
def withShares {α : Type} (size : Nat → α → Nat) (head tail : Nat) (xs : List α) :
    List (α × Nat × Nat) :=
  xs.zip ((shares size head xs).zip (shares size tail xs.reverse).reverse)

/-- An integer that is too long to be printed, in place of what holds one. -/
def tooLong : Value := .int Text.firstTooLong

/-- The value of an item as far as the `head` first and the `tail` last bytes of its text may show.
The containers in `above` may be open around it or not, those in `path` are, and `spoiled` tells
which ones hold an integer that is too long to be printed. -/
def ends (cs : Contents) (spoiled : Nat → Bool) (above : List Nat) :
    Nat → Nat → Nat → List Nat → Ref → Value
  | 0, _, _, _, r => match r with
    | .scalar v => v
    | .node i => if spoiled i then tooLong else .list (some i) []
  | _ + 1, _, _, _, .scalar v => v
  | fuel + 1, head, tail, path, .node i =>
    let item := fun limit r => length cs (limit + 1) (i :: path ++ above) limit r + 2
    let shown := fun (n : Nat × Nat) r =>
      if n.1 = 0 ∧ n.2 = 0 then
        match r with
        | .scalar v => if v.isPrintable then none else some v
        | .node j => if spoiled j then some tooLong else none
      else some (ends cs spoiled above fuel n.1 n.2 (i :: path) r)
    let isOpen := path.contains i
    match (cs[i]?).join with
    | some (.list items) =>
      if isOpen then .list (some i) []
      else
        .list (some i) ((withShares item (head - 1) (tail - 1) items).filterMap fun (r, n) =>
          shown n r)
    | some (.dict es) =>
      let entry := fun limit (e : Value × Ref) => Text.Utf8.size e.1.literal + item limit e.2 + 2
      if isOpen then .dict (some i) []
      else
        .dict (some i) ((withShares entry (head - 1) (tail - 1) es).filterMap fun ((k, r), n) =>
          (shown n r).map fun v => (k, v))
    | some (.set members) => .set members
    | some (.pairs ps) =>
      let pair := fun limit (p : Ref × Ref) => item limit p.1 + item limit p.2
      if isOpen then .list (some i) []
      else
        .list (some i) ((withShares pair (head - 1) (tail - 1) ps).filterMap fun ((a, b), n) =>
          match shown n a, shown n b with
          | none, none => none
          | v, w => some (.tuple [v.getD .null, w.getD .null]))
    | none => .null

/-! ## Documents -/

def items : Content → List Ref
  | .list xs => xs
  | .dict es => es.flatMap fun (k, r) => [.scalar k, r]
  | .set members => members.map .scalar
  | .pairs ps => ps.flatMap fun (a, b) => [a, b]

/-- Is the item a scalar that cannot be printed, or a container that is spoiled? -/
def isSpoiled (spoiled : Array Bool) : Ref → Bool
  | .scalar v => !v.isPrintable
  | .node i => spoiled.getD i false

/-- Find the containers that hold an integer that is too long to be printed, more of them in each
round. -/
def spread (cs : Contents) : Nat → Array Bool → Array Bool
  | 0, spoiled => spoiled
  | rounds + 1, spoiled =>
    let next := cs.map fun c => match c with
      | some c => (items c).any (isSpoiled spoiled)
      | none => false
    -- a container spoils those that hold it, so this goes on until nothing changes
    if next == spoiled then spoiled else spread cs rounds next

/-- The value of an item that lies `depth` containers above those whose ends are enough. -/
def valueFrom (cs : Contents) (spoiled : Nat → Bool) : Nat → List Nat → Ref → Value
  | _, _, .scalar v => v
  | 0, above, r => ends cs spoiled above headBytes headBytes tailBytes [] r
  | depth + 1, above, .node i =>
    let below := valueFrom cs spoiled depth (i :: above)
    match (cs[i]?).join with
    | some (.list items) => .list (some i) (items.map below)
    | some (.dict es) => .dict (some i) (es.map fun (k, r) => (k, below r))
    | some (.set members) => .set members
    | some (.pairs ps) => .list (some i) (ps.map fun (a, b) => .tuple [below a, below b])
    | none => .null

/-- The number of containers above those whose ends are enough: the whole and its sections. -/
def wholeDepth : Nat := 2

def value (cs : Contents) (root : Ref) : Value :=
  let spoiled := spread cs cs.size (.replicate cs.size false)
  valueFrom cs (fun i => spoiled.getD i false) wholeDepth [] root

end BindingIndex.Yaml.Contents
