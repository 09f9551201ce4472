import BindingIndex.Expression.Token
import BindingIndex.Expression.Tree

/-!
# Rules

A rule reads tokens from a place on. It may read something, read nothing, or find a fault, which
ends all reading. What the rules of a grammar read from each place is kept, so no rule reads
anything twice: the readings from a place are computed when those from every later place are there.

* `Expression.Reading`: what came of a rule, with the number of tokens that it looked at.
* `Expression.Readings`: what the rules of expressions read from one place on.
* `Expression.Rule`: rules; they form a monad, and `<|>` tries the second where the first reads
  nothing.
* `Rule.many`, `Rule.separated`: repetition.
* `Rule.explain`: a rule that only finds faults.
-/

namespace BindingIndex.Expression

inductive Result (α : Type) where
  | nothing
  /-- A value, out of a number of tokens. -/
  | value (a : α) (size : Nat)
  | fault (f : Fault)

/-- What came of a rule that looked at `reach` tokens. -/
structure Reading (α : Type) where
  reach : Nat
  result : Result α

namespace Reading

def none {α : Type} : Reading α := ⟨0, .nothing⟩

/-- A reading that follows another of a number of tokens, which reached as far as `reach`. -/
def after {α : Type} (size reach : Nat) (r : Reading α) : Reading α where
  reach := max reach (size + r.reach)
  result := match r.result with
    | .value a n => .value a (size + n)
    | other => other

/-- A reading beside another that reached as far as `reach`. -/
def beside {α : Type} (reach : Nat) (r : Reading α) : Reading α :=
  { r with reach := max reach r.reach }

end Reading

structure Readings where
  token : Token
  /-- Are faults explained? Otherwise they are only noticed. -/
  explains : Bool
  /-- An expression, read without explaining faults. -/
  plain : Reading Tree
  /-- An expression right behind a name, maybe with a star. Its parts have been read before, so only
  its own faults are explained. -/
  behindName : Reading Tree
  /-- An expression, maybe with a star, read with explaining all faults. -/
  fresh : Reading Tree
  primary : Reading Tree
  /-- A factor and what is built of it by operators, those that bind more tightly first. -/
  operations : List (Reading Tree)
  inversion : Reading Tree
  conjunction : Reading Tree
  disjunction : Reading Tree
  expression : Reading Tree
  named : Reading Tree
  target : Reading Unit

def Readings.before (token : Token) : Readings :=
  ⟨token, false, .none, .none, .none, .none, [], .none, .none, .none, .none, .none, .none⟩

/-- A rule, given the readings from its place and from all later ones on. -/
def Rule (α : Type) : Type := List Readings → Reading α

namespace Rule

variable {α β : Type}

def just (a : α) : Rule α := fun _ => ⟨0, .value a 0⟩

def andThen (r : Rule α) (next : α → Rule β) : Rule β := fun place =>
  let first := r place
  match first.result with
  | .nothing => ⟨first.reach, .nothing⟩
  | .fault f => ⟨first.reach, .fault f⟩
  | .value a n => (next a (place.drop n)).after n first.reach

def orTry (r : Rule α) (other : Unit → Rule α) : Rule α := fun place =>
  let first := r place
  match first.result with
  | .nothing => (other () place).beside first.reach
  | _ => first

instance : Monad Rule where
  pure := just
  bind := andThen

instance : OrElse (Rule α) := ⟨orTry⟩

def nothing : Rule α := fun _ => .none

def raise (f : Fault) : Rule α := fun _ => ⟨0, .fault f⟩

def ofExcept : Except Fault α → Rule α
  | .ok a => just a
  | .error f => raise f

/-- What a rule has read from here on. -/
def kept (f : Readings → Reading α) : Rule α
  | [] => .none
  | r :: _ => f r

/-- A token of which something is made. -/
def token (f : TokenKind → Option α) : Rule α
  | [] => .none
  | r :: _ =>
    match r.token.kind, f r.token.kind with
    | .fault e, _ => ⟨1, .fault e⟩
    | _, some a => ⟨1, .value a 1⟩
    | _, .none => ⟨1, .nothing⟩

def sign (s : String) : Rule Unit := token fun k => if k = .sign s then some () else none

def anySign (signs : List String) : Rule String :=
  token fun
    | .sign s => if signs.contains s then some s else none
    | _ => none

def word (s : String) : Rule Unit := token fun k => if k = .word s then some () else none

def name : Rule String :=
  token fun
    | .name s => some s
    | _ => none

def ahead (r : Rule α) : Rule Unit := fun place =>
  let first := r place
  match first.result with
  | .value _ _ => ⟨first.reach, .value () 0⟩
  | .nothing => ⟨first.reach, .nothing⟩
  | .fault f => ⟨first.reach, .fault f⟩

def notAhead (r : Rule α) : Rule Unit := fun place =>
  let first := r place
  match first.result with
  | .value _ _ => ⟨first.reach, .nothing⟩
  | .nothing => ⟨first.reach, .value () 0⟩
  | .fault f => ⟨first.reach, .fault f⟩

def optional (r : Rule α) : Rule (Option α) :=
  (do return some (← r)) <|> just none

/-- Go on with what a rule read, or otherwise with another rule. Once it has read, there is no way
back. -/
def commit (r : Rule α) (next : α → Rule β) (other : Rule β) : Rule β := fun place =>
  let first := r place
  match first.result with
  | .nothing => (other place).beside first.reach
  | .fault f => ⟨first.reach, .fault f⟩
  | .value a n => (next a (place.drop n)).after n first.reach

/-- Take steps until one reads nothing, at most `n`. -/
def iterate (step : α → Rule α) : Nat → α → Rule α
  | 0, a => just a
  | n + 1, a => commit (step a) (iterate step n) (just a)

def loop (step : α → Rule α) (a : α) : Rule α := fun place => iterate step place.length a place

def many (r : Rule α) : Rule (List α) := do
  return (← loop (fun as => do return (← r) :: as) []).reverse

def oneOrMore (r : Rule α) : Rule (List α) := do return (← r) :: (← many r)

/-- Read with a rule once or more, with commas between. -/
def separated (r : Rule α) : Rule (List α) := do return (← r) :: (← many do sign ","; r)

/-- Read with a rule once or more, with commas between and maybe one at the end. -/
def listed (r : Rule α) : Rule (List α) := do
  let items ← separated r
  discard (optional (sign ","))
  return items

/-- What a rule reads, with the number of brackets that are open behind its last token. -/
def withDepth (r : Rule α) : Rule (α × Nat) := fun place =>
  let first := r place
  match first.result with
  | .nothing => ⟨first.reach, .nothing⟩
  | .fault f => ⟨first.reach, .fault f⟩
  | .value a n => ⟨first.reach, .value (a, (place[n - 1]?).elim 0 fun r => r.token.depth) n⟩

/-- Look for a fault. A rule that reads `none` has found that there is none to be explained here. -/
def complain (r : Rule (Option Fault)) : Rule α := do
  match ← r with
  | some f => raise f
  | none => nothing

/-- Look for a fault, if faults are explained. -/
def explain (r : Rule (Option Fault)) : Rule α := do
  kept fun readings => if readings.explains then ⟨0, .value () 0⟩ else .none
  complain r

end Rule

end BindingIndex.Expression
