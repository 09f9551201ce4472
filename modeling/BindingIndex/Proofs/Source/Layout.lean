import BindingIndex.Source.Program

/-!
# Running a program appends its layout

`Stmt.run` drives a builder, `Stmt.layout` reads the lines off the structure of a program.
`Stmt.run_eq_layout`: a run appends exactly the lines of the layout at the depth in force, gives up
exactly where the layout does and for the same cause, and leaves the indentation unit and the depth
as they were, whichever way it ends.
-/

namespace BindingIndex.Source

/-- A builder with more lines. -/
def Builder.append (b : Builder) (more : List Text) : Builder :=
  { b with lines := b.lines ++ more }

namespace Builder

@[simp] theorem append_nil (b : Builder) : b.append [] = b := by
  simp [append]

@[simp] theorem append_append (b : Builder) (xs ys : List Text) :
    (b.append xs).append ys = b.append (xs ++ ys) := by
  simp [append]

@[simp] theorem indent_append (b : Builder) (xs : List Text) : (b.append xs).indent = b.indent :=
  rfl

@[simp] theorem depth_append (b : Builder) (xs : List Text) : (b.append xs).depth = b.depth := rfl

theorem line_eq_append (b : Builder) (text : Text) :
    b.line text = b.append [Stmt.lineAt b.indent b.depth text] := rfl

/-- A block around lines that were appended one level deeper. -/
theorem leave_enter_append (b : Builder) (header : Text) (inner : List Text) :
    ((b.enter header).append inner).leave =
      b.append (Stmt.lineAt b.indent b.depth (opening header) :: inner ++
        [Stmt.lineAt b.indent b.depth closing]) := by
  have hdepth : b.depth + 1 - 1 = b.depth := by omega
  simp [leave, enter, line_eq_append, append, hdepth]

end Builder

namespace Stmt

variable {ε : Type}

mutual

/-- **A run appends the layout** and gives up where the layout does. -/
theorem run_eq_layout (b : Builder) :
    (s : Stmt ε) → s.run b = (b.append (layout b.indent b.depth s).1, (layout b.indent b.depth s).2)
  | .line text => by simp [run, layout, Builder.line_eq_append]
  | .block header body => by
    have ih := runAll_eq_layoutAll (b.enter header) body
    simp only [run, layout, ih, Builder.leave_enter_append, Builder.indent_enter,
      Builder.depth_enter]
  | .abort _ => by simp [run, layout]

theorem runAll_eq_layoutAll (b : Builder) :
    (ss : List (Stmt ε)) →
      runAll b ss = (b.append (layoutAll b.indent b.depth ss).1, (layoutAll b.indent b.depth ss).2)
  | [] => by simp [runAll, layoutAll]
  | s :: rest => by
    have hs := run_eq_layout b s
    cases hd : layout b.indent b.depth s with
    | mk lines stopped =>
      rw [hd] at hs
      cases stopped with
      | some cause => simp [runAll, layoutAll, hs, hd]
      | none =>
        have ih := runAll_eq_layoutAll (b.append lines) rest
        simp [runAll, layoutAll, hs, hd, ih]

end

end Stmt

end BindingIndex.Source
