import BindingIndex.Source.Builder

/-!
# Nested source programs

A source program says what is to be laid out: lines, blocks around further statements, and points
where it gives up for a cause. Running it on a builder closes every block that is still open,
whichever way the body ended.

* `Stmt.run`, `Stmt.runAll`: run on a builder, with the cause for which the program gave up, if it
  did.
* `Stmt.layout`, `Stmt.layoutAll`: the lines that a program stands for, by its structure alone.
-/

namespace BindingIndex.Source

inductive Stmt (ε : Type) where
  | line (text : Text)
  | block (header : Text) (body : List (Stmt ε))
  | abort (cause : ε)
  deriving Repr

namespace Stmt

variable {ε : Type}

mutual

/-- Run one statement. -/
def run (b : Builder) : Stmt ε → Builder × Option ε
  | line text => (b.line text, none)
  | block header body =>
    let (b, stopped) := runAll (b.enter header) body
    (b.leave, stopped)
  | abort cause => (b, some cause)

/-- Run statements one after another until one gives up. -/
def runAll (b : Builder) : List (Stmt ε) → Builder × Option ε
  | [] => (b, none)
  | s :: rest =>
    match run b s with
    | (b, none) => runAll b rest
    | (b, some cause) => (b, some cause)

end

/-- A line at a depth: blank text stays blank. -/
def lineAt (indent : Text) (depth : Int) (text : Text) : Text :=
  if text = [] then [] else (List.replicate depth.toNat indent).flatten ++ text

mutual

/-- The lines of one statement at a depth, and why it gives up. -/
def layout (indent : Text) (depth : Int) : Stmt ε → List Text × Option ε
  | line text => ([lineAt indent depth text], none)
  | block header body =>
    let (inner, stopped) := layoutAll indent (depth + 1) body
    (lineAt indent depth (Builder.opening header) :: inner ++
      [lineAt indent depth Builder.closing], stopped)
  | abort cause => ([], some cause)

/-- The lines of a sequence of statements up to the point where one gives up. -/
def layoutAll (indent : Text) (depth : Int) : List (Stmt ε) → List Text × Option ε
  | [] => ([], none)
  | s :: rest =>
    match layout indent depth s with
    | (lines, none) =>
      let (more, stopped) := layoutAll indent depth rest
      (lines ++ more, stopped)
    | (lines, some cause) => (lines, some cause)

end

end Stmt

end BindingIndex.Source
