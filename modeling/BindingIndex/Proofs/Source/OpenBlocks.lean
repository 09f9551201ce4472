import BindingIndex.Proofs.Source.Layout
import BindingIndex.Source.Session
import Mathlib.Data.List.Forall2
import Mathlib.Data.List.Induction
import Mathlib.Data.List.TakeWhile

/-!
# Sessions and their open blocks

A session may leave its blocks in any order and by a failure. What is in force at a point of a run
is told by the operations before it: `indentAfter` is the indentation unit that was assigned last,
and `depthAfter` the depth that was assigned last, moved by the blocks entered and left since.

* `indent_run`, `depth_run`: the builder is always at these, by induction on the operations from the
  last one back.
* `lines_step`: an operation with a text (`Step.text?`) appends one line and every other one none.
  So lines are only ever added at the end (`lines_run_isPrefix`), one for each such operation
  (`length_lines_run`).
* `Session.AllowsAll`: the runs that can happen are those that leave open blocks only. Under them
  the blocks that are open are those entered less those left (`blocks_run`), and so the depth is
  their number as long as it is not assigned (`depth_eq_blocks`).
* `builder_run_of_alike`: runs whose operations differ only in the block that they leave, and in how
  they leave it, end in the same builder.

Together: `run_appends`.
-/

namespace BindingIndex.Source

namespace Step

/-- The text of the line that an operation appends, if it appends one. -/
def text? : Step → Option Text
  | line text => some text
  | enter header => some (Builder.opening header)
  | leave _ => some Builder.closing
  | fail _ _ => some Builder.closing
  | _ => none

def enters : Step → Bool
  | enter _ => true
  | _ => false

def leaves : Step → Bool
  | leave _ => true
  | fail _ _ => true
  | _ => false

def indent? : Step → Option Text
  | setIndent indent => some indent
  | _ => none

def depth? : Step → Option Int
  | setDepth depth => some depth
  | _ => none

/-- The same operation, but for the block that it leaves and how. -/
def Alike (x y : Step) : Prop := x = y ∨ (x.leaves = true ∧ y.leaves = true)

end Step

/-! ## What is in force -/

/-- The indentation unit in force after operations on a new builder: the last that was assigned. -/
def indentAfter (indent : Text) (before : List Step) : Text :=
  (before.filterMap Step.indent?).getLast?.getD indent

/-- The operations since the depth was last assigned, the latest first. -/
def sinceDepth (before : List Step) : List Step :=
  before.reverse.takeWhile fun x => x.depth?.isNone

/-- The depth in force after operations on a new builder: the last that was assigned, moved by the
blocks that were entered and left since. -/
def depthAfter (before : List Step) : Int :=
  (before.filterMap Step.depth?).getLast?.getD 0 + (sinceDepth before).countP Step.enters -
    (sinceDepth before).countP Step.leaves

/-- The line of an operation, if it appends one: its text under what is in force, where a block is
closed at the depth outside of it. -/
def lineAfter (indent : Text) (before : List Step) (x : Step) : Option Text :=
  x.text?.map (Stmt.lineAt (indentAfter indent before)
    (if x.leaves then depthAfter before - 1 else depthAfter before))

theorem indentAfter_concat (indent : Text) (before : List Step) (x : Step) :
    indentAfter indent (before ++ [x]) = x.indent?.getD (indentAfter indent before) := by
  rw [indentAfter, List.filterMap_append]
  cases hx : x.indent? with
  | none => simp [hx, indentAfter]
  | some unit => simp [hx]

theorem depthAfter_concat (before : List Step) (x : Step) :
    depthAfter (before ++ [x]) = x.depth?.getD (depthAfter before +
      (if x.enters then 1 else 0) - (if x.leaves then 1 else 0)) := by
  rw [depthAfter, sinceDepth, List.filterMap_append, List.reverse_append, List.reverse_singleton,
    List.singleton_append]
  cases hx : x.depth? with
  | none =>
    have hone : ∀ b : Bool, ((if b then 1 else 0 : Nat) : Int) = if b then 1 else 0 := by decide
    rw [List.takeWhile_cons_of_pos (by simp [hx]), ← sinceDepth, List.countP_cons, List.countP_cons,
      Int.natCast_add, Int.natCast_add, hone, hone]
    simp only [hx, List.filterMap_cons, List.filterMap_nil, List.append_nil, Option.getD_none,
      depthAfter]
    omega
  | some depth =>
    rw [List.takeWhile_cons_of_neg (by simp [hx])]
    simp [hx]

/-- As long as the depth is not assigned it is the number of blocks entered and not left. -/
theorem depthAfter_eq_sub {before : List Step} (h : ∀ x ∈ before, x.depth? = none) :
    depthAfter before = before.countP Step.enters - before.countP Step.leaves := by
  have hnone : before.filterMap Step.depth? = [] := List.filterMap_eq_nil_iff.2 h
  have hall : sinceDepth before = before.reverse := by
    refine List.takeWhile_eq_self_iff.2 fun x hx => ?_
    rw [h x (List.mem_reverse.1 hx)]
    rfl
  rw [depthAfter, hnone, hall, List.countP_reverse, List.countP_reverse]
  exact congrArg (· - _) (Int.zero_add _)

namespace Session

/-- Is there an open block at the position, or any at all? -/
def HasBlock (s : Session) : Option Nat → Prop
  | none => s.blocks ≠ []
  | some i => i < s.blocks.length

/-- The operation can be made: a block that is left is open. -/
def Allows (s : Session) : Step → Prop
  | .leave position => s.HasBlock position
  | .fail _ position => s.HasBlock position
  | _ => True

def AllowsAll (s : Session) : List Step → Prop
  | [] => True
  | x :: rest => s.Allows x ∧ (s.step x).AllowsAll rest

variable {s t : Session} {x y : Step}

theorem run_cons (s : Session) (x : Step) (rest : List Step) :
    s.run (x :: rest) = (s.step x).run rest := rfl

theorem run_append (s : Session) (xs ys : List Step) : s.run (xs ++ ys) = (s.run xs).run ys :=
  List.foldl_append

theorem run_concat (s : Session) (xs : List Step) (x : Step) :
    s.run (xs ++ [x]) = (s.run xs).step x := run_append s xs [x]

theorem AllowsAll.left {xs ys : List Step} (h : s.AllowsAll (xs ++ ys)) : s.AllowsAll xs := by
  induction xs generalizing s with
  | nil => trivial
  | cons x xs ih => exact ⟨h.1, ih h.2⟩

/-! ## The state of the builder -/

theorem indent_step (s : Session) (x : Step) :
    (s.step x).builder.indent = x.indent?.getD s.builder.indent := by
  cases x <;> rfl

theorem depth_step (s : Session) (x : Step) :
    (s.step x).builder.depth = x.depth?.getD (s.builder.depth +
      (if x.enters then 1 else 0) - (if x.leaves then 1 else 0)) := by
  cases x with
  | setDepth depth => rfl
  | enter header => exact (Int.sub_zero _).symm
  | leave position => exact congrArg (· - 1) (Int.add_zero _).symm
  | fail message position => exact congrArg (· - 1) (Int.add_zero _).symm
  | _ => exact ((Int.sub_zero _).trans (Int.add_zero _)).symm

theorem indent_run (indent : Text) (before : List Step) :
    ((new indent).run before).builder.indent = indentAfter indent before := by
  induction before using List.reverseRecOn with
  | nil => rfl
  | append_singleton before x ih => rw [run_concat, indent_step, ih, indentAfter_concat]

theorem depth_run (indent : Text) (before : List Step) :
    ((new indent).run before).builder.depth = depthAfter before := by
  induction before using List.reverseRecOn with
  | nil => rfl
  | append_singleton before x ih => rw [run_concat, depth_step, ih, depthAfter_concat]

/-! ## Lines -/

theorem lines_step (s : Session) (x : Step) :
    (s.step x).builder.lines = s.builder.lines ++ (x.text?.map (Stmt.lineAt s.builder.indent
      (if x.leaves then s.builder.depth - 1 else s.builder.depth))).toList := by
  cases x with
  | line text => rfl
  | enter header => rfl
  | leave position => rfl
  | fail message position => rfl
  | _ => exact (List.append_nil _).symm

theorem lines_run_concat (indent : Text) (before : List Step) (x : Step) :
    ((new indent).run (before ++ [x])).builder.lines =
      ((new indent).run before).builder.lines ++ (lineAfter indent before x).toList := by
  rw [run_concat, lines_step, indent_run, depth_run, lineAfter]

theorem lines_run_isPrefix (s : Session) (steps : List Step) :
    s.builder.lines <+: (s.run steps).builder.lines := by
  induction steps generalizing s with
  | nil => exact List.prefix_refl _
  | cons x rest ih =>
    have hstep : s.builder.lines <+: (s.step x).builder.lines := ⟨_, (lines_step s x).symm⟩
    exact hstep.trans (ih (s.step x))

theorem length_lines_run (s : Session) (steps : List Step) :
    (s.run steps).builder.lines.length =
      s.builder.lines.length + steps.countP fun x => x.text?.isSome := by
  induction steps generalizing s with
  | nil => rfl
  | cons x rest ih =>
    rw [run_cons, ih, lines_step, List.length_append, List.countP_cons]
    cases x.text? with
    | none => rfl
    | some text => exact Nat.add_right_comm _ _ _

/-! ## Open blocks -/

theorem length_without {position : Option Nat} (h : s.HasBlock position) :
    (without s.blocks position).length + 1 = s.blocks.length := by
  cases position with
  | none =>
    have hpos : 0 < s.blocks.length := List.length_pos_iff.2 h
    rw [without, List.length_dropLast]
    omega
  | some i =>
    have hi : i < s.blocks.length := h
    rw [without, List.length_eraseIdx_of_lt hi]
    omega

theorem blocks_step (h : s.Allows x) :
    (s.step x).blocks.length + (if x.leaves then 1 else 0) =
      s.blocks.length + (if x.enters then 1 else 0) := by
  cases x with
  | enter header => exact List.length_append
  | leave position => exact length_without h
  | fail message position => exact length_without h
  | _ => rfl

/-- **The open blocks** are those that were entered, less those that were left. -/
theorem blocks_run {steps : List Step} (h : s.AllowsAll steps) :
    (s.run steps).blocks.length + steps.countP Step.leaves =
      s.blocks.length + steps.countP Step.enters := by
  induction steps generalizing s with
  | nil => rfl
  | cons x rest ih =>
    have hx := blocks_step h.1
    have hrest := ih h.2
    rw [run_cons, List.countP_cons, List.countP_cons]
    omega

/-- **The depth** counts the open blocks as long as it is not assigned. -/
theorem depth_eq_blocks {indent : Text} {before : List Step} (h : (new indent).AllowsAll before)
    (hdepth : ∀ x ∈ before, x.depth? = none) :
    ((new indent).run before).builder.depth = ((new indent).run before).blocks.length := by
  have hblocks := blocks_run h
  have hnew : (new indent).blocks.length = 0 := rfl
  rw [depth_run, depthAfter_eq_sub hdepth]
  omega

/-! ## The block that is left -/

theorem builder_step_of_alike (h : x.Alike y) (hb : s.builder = t.builder) :
    (s.step x).builder = (t.step y).builder := by
  have hleave : ∀ {z : Step} (r : Session), z.leaves = true →
      (r.step z).builder = r.builder.leave := by
    intro z r hz
    cases z with
    | leave position => rfl
    | fail message position => rfl
    | _ => cases hz
  obtain rfl | ⟨hx, hy⟩ := h
  · cases x <;> simp only [step, hb]
  · rw [hleave s hx, hleave t hy, hb]

theorem builder_run_of_alike {xs ys : List Step} (h : List.Forall₂ Step.Alike xs ys)
    (hb : s.builder = t.builder) : (s.run xs).builder = (t.run ys).builder := by
  induction h generalizing s t with
  | nil => exact hb
  | cons hxy _ ih => exact ih (builder_step_of_alike hxy hb)

/-- **What a run appends.** Let a run on a new builder leave open blocks only.

* At every point the indentation unit and the depth are those in force. The next operation appends
  one line if it has a text: blank if the text is, else indented by what is in force. Lines that are
  there stay, and in all there are as many as operations with a text.
* As many blocks are open as were entered less those left. Unless the depth was assigned before, it
  is this number, so it is not negative.
* A run that only differs in the blocks that are left, and in how they are left, ends in the same
  depth and lines. -/
theorem run_appends {indent : Text} {steps : List Step} (h : (new indent).AllowsAll steps) :
    (∀ before x after, steps = before ++ x :: after →
      ((new indent).run before).builder.indent = indentAfter indent before ∧
      ((new indent).run before).builder.depth = depthAfter before ∧
      ((new indent).run (before ++ [x])).builder.lines =
        ((new indent).run before).builder.lines ++ (lineAfter indent before x).toList ∧
      ((new indent).run (before ++ [x])).builder.lines <+: ((new indent).run steps).builder.lines) ∧
    ((new indent).run steps).builder.lines.length = steps.countP (fun x => x.text?.isSome) ∧
    (∀ before after, steps = before ++ after →
      ((new indent).run before).blocks.length + before.countP Step.leaves =
        before.countP Step.enters ∧
      ((∀ x ∈ before, x.depth? = none) →
        ((new indent).run before).builder.depth = ((new indent).run before).blocks.length ∧
        0 ≤ ((new indent).run before).builder.depth)) ∧
    ∀ other, List.Forall₂ Step.Alike steps other →
      ((new indent).run other).builder.depth = ((new indent).run steps).builder.depth ∧
      ((new indent).run other).builder.lines = ((new indent).run steps).builder.lines := by
  refine ⟨?_, ?_, ?_, fun other hother => ?_⟩
  · rintro before x after rfl
    refine ⟨indent_run indent before, depth_run indent before,
      lines_run_concat indent before x, ?_⟩
    have hsteps : before ++ x :: after = before ++ [x] ++ after := List.append_cons ..
    rw [hsteps, run_append (new indent) (before ++ [x]) after]
    exact lines_run_isPrefix _ after
  · rw [length_lines_run]
    exact Nat.zero_add _
  · rintro before after rfl
    have hbefore := h.left
    refine ⟨(blocks_run hbefore).trans (Nat.zero_add _), fun hdepth => ?_⟩
    have heq := depth_eq_blocks hbefore hdepth
    exact ⟨heq, heq ▸ Int.natCast_nonneg _⟩
  · have hb := builder_run_of_alike hother (Eq.refl (new indent).builder)
    rw [hb]
    exact ⟨rfl, rfl⟩

/-- Two blocks that cross, the inner one left last and by a failure. -/
def crossing : List Step :=
  [.enter "a", .setIndent "\t", .enter "b", .leave (some 0), .line "x", .line "", .fail "no"]

/-- The same operations with one block inside the other. -/
def nested : List Step :=
  [.enter "a", .setIndent "\t", .enter "b", .leave none, .line "x", .line "", .leave (some 0)]

theorem alike_crossing_nested : List.Forall₂ Step.Alike crossing nested :=
  .cons (.inl rfl) <| .cons (.inl rfl) <| .cons (.inl rfl) <| .cons (.inr ⟨rfl, rfl⟩) <|
    .cons (.inl rfl) <| .cons (.inl rfl) <| .cons (.inr ⟨rfl, rfl⟩) .nil

/-- After the first block is left the line is still indented once, for the other one. -/
theorem run_appends_crossing :
    (new "  ").AllowsAll crossing ∧ List.Forall₂ Step.Alike crossing nested ∧
    ((new "  ").run (crossing.take 5)).builder.lines =
      ((new "  ").run (crossing.take 4)).builder.lines ++ (["\tx"] : List Text) ∧
    ((new "  ").run (crossing.take 4)).builder.depth = 1 ∧
    ((new "  ").run crossing).builder.lines.length = 6 ∧
    ((new "  ").run nested).builder.lines = ((new "  ").run crossing).builder.lines :=
  have hallows : (new "  ").AllowsAll crossing := by
    refine ⟨trivial, trivial, trivial, ?_, trivial, trivial, ?_, trivial⟩
    · exact Nat.zero_lt_two
    · exact List.cons_ne_nil (Text.ofString "b") []
  have h := run_appends hallows
  have hline := h.1 (crossing.take 4) (.line "x") (crossing.drop 5) rfl
  have hdepth := h.2.2.1 (crossing.take 4) (crossing.drop 4) rfl
  ⟨hallows, alike_crossing_nested, hline.2.2.1, (hdepth.2 (by decide)).1, h.2.1,
    (h.2.2.2 nested alike_crossing_nested).2⟩

end Session

end BindingIndex.Source
