import BindingIndex.Proofs.Source.Layout

/-!
# Programs that give up

A program gives up at one point: after statements that ran to their end, inside blocks of which each
had run a part of its body. `Reaches ss p` says so of the program `ss`, and `p` lists what ended and
what is still open there.

* `reaches_unique`, `exists_reaches`: a program gets to one point and no other.
* `layoutAll_of_reaches`: its lines are those of the part that ended, the opening line of each open
  block with what ended inside, and one closing line for each open block, from the innermost out.
* `runAll_unwinds`: these lines are what a run appends, and the depth is as before.
-/

namespace BindingIndex.Source.Stmt

variable {ε : Type}

mutual

/-- The statement gives up nowhere. -/
def Complete : Stmt ε → Prop
  | line _ => True
  | block _ body => CompleteAll body
  | abort _ => False

def CompleteAll : List (Stmt ε) → Prop
  | [] => True
  | s :: rest => s.Complete ∧ CompleteAll rest

end

/-- A block that has not been left: its header and the statements of its body that ended. -/
structure OpenBlock (ε : Type) where
  header : Text
  done : List (Stmt ε)

/-- How far a program got. -/
structure Progress (ε : Type) where
  /-- The statements that ended, none of them inside an open block. -/
  done : List (Stmt ε)
  /-- The blocks that are open, the outermost first. -/
  opened : List (OpenBlock ε)
  /-- Why it gave up, if it did. -/
  stopped : Option ε

/-- The point that a program gets to. -/
inductive Reaches : List (Stmt ε) → Progress ε → Prop
  /-- Nothing gives up. -/
  | ended {ss : List (Stmt ε)} (h : CompleteAll ss) : Reaches ss ⟨ss, [], none⟩
  /-- The program gives up outside of all blocks. -/
  | here {done rest : List (Stmt ε)} {cause : ε} (h : CompleteAll done) :
      Reaches (done ++ abort cause :: rest) ⟨done, [], some cause⟩
  /-- The program gives up inside a block. -/
  | inside {done rest body inner : List (Stmt ε)} {header : Text} {opened : List (OpenBlock ε)}
      {cause : ε} (h : CompleteAll done) (hbody : Reaches body ⟨inner, opened, some cause⟩) :
      Reaches (done ++ block header body :: rest) ⟨done, ⟨header, inner⟩ :: opened, some cause⟩

/-! ## The point is determined -/

theorem completeAll_append {xs ys : List (Stmt ε)} :
    CompleteAll (xs ++ ys) ↔ CompleteAll xs ∧ CompleteAll ys := by
  induction xs with
  | nil => simp [CompleteAll]
  | cons x xs ih => simp [CompleteAll, ih, and_assoc]

theorem not_completeAll_append_cons {done rest : List (Stmt ε)} {s : Stmt ε} (hs : ¬ s.Complete) :
    ¬ CompleteAll (done ++ s :: rest) := fun h => hs (completeAll_append.1 h).2.1

theorem not_completeAll_of_reaches {ss : List (Stmt ε)} {p : Progress ε} (h : Reaches ss p) :
    p.stopped ≠ none → ¬ CompleteAll ss := by
  induction h with
  | ended h => exact fun he => absurd rfl he
  | here h => exact fun _ => not_completeAll_append_cons id
  | inside h _ ih => exact fun _ => not_completeAll_append_cons (ih (Option.some_ne_none _))

theorem not_complete_block {header : Text} {body inner : List (Stmt ε)}
    {opened : List (OpenBlock ε)} {cause : ε} (h : Reaches body ⟨inner, opened, some cause⟩) :
    ¬ Complete (block header body) :=
  not_completeAll_of_reaches h (Option.some_ne_none _)

theorem append_cons_inj {done done' rest rest' : List (Stmt ε)} {s s' : Stmt ε}
    (hd : CompleteAll done) (hd' : CompleteAll done') (hs : ¬ s.Complete) (hs' : ¬ s'.Complete)
    (h : done ++ s :: rest = done' ++ s' :: rest') : done = done' ∧ s = s' := by
  induction done generalizing done' with
  | nil =>
    cases done' with
    | nil =>
      rw [List.nil_append, List.nil_append, List.cons.injEq] at h
      exact ⟨rfl, h.1⟩
    | cons x xs =>
      rw [List.nil_append, List.cons_append, List.cons.injEq] at h
      exact absurd (h.1 ▸ hd'.1) hs
  | cons y ys ih =>
    cases done' with
    | nil =>
      rw [List.nil_append, List.cons_append, List.cons.injEq] at h
      exact absurd (h.1 ▸ hd.1) hs'
    | cons x xs =>
      rw [List.cons_append, List.cons_append, List.cons.injEq] at h
      obtain ⟨hdone, hsame⟩ := ih hd.2 hd'.2 h.2
      exact ⟨by rw [h.1, hdone], hsame⟩

theorem reaches_append_cons {done rest : List (Stmt ε)} {s : Stmt ε} {p : Progress ε}
    (hd : CompleteAll done) (hs : ¬ s.Complete) (h : Reaches (done ++ s :: rest) p) :
    (∃ cause, s = abort cause ∧ p = ⟨done, [], some cause⟩) ∨
      ∃ header body inner opened cause, s = block header body ∧
        Reaches body ⟨inner, opened, some cause⟩ ∧
        p = ⟨done, ⟨header, inner⟩ :: opened, some cause⟩ := by
  generalize hss : done ++ s :: rest = ss at h
  cases h with
  | ended h => exact absurd (hss ▸ h) (not_completeAll_append_cons hs)
  | here h =>
    obtain ⟨rfl, rfl⟩ := append_cons_inj hd h hs id hss
    exact .inl ⟨_, rfl, rfl⟩
  | inside h hbody =>
    obtain ⟨rfl, rfl⟩ := append_cons_inj hd h hs (not_complete_block hbody) hss
    exact .inr ⟨_, _, _, _, _, rfl, hbody, rfl⟩

theorem reaches_unique {ss : List (Stmt ε)} {p q : Progress ε} (hp : Reaches ss p)
    (hq : Reaches ss q) : q = p := by
  induction hp generalizing q with
  | ended h =>
    cases hq with
    | ended => rfl
    | here => exact absurd h (not_completeAll_append_cons id)
    | inside _ hb => exact absurd h (not_completeAll_append_cons (not_complete_block hb))
  | here h =>
    obtain ⟨_, hs, rfl⟩ | ⟨_, _, _, _, _, hs, -, -⟩ := reaches_append_cons h id hq
    · cases hs
      rfl
    · cases hs
  | inside h hbody ih =>
    obtain ⟨_, hs, -⟩ | ⟨_, _, _, _, _, hs, hbody', rfl⟩ :=
      reaches_append_cons h (not_complete_block hbody) hq
    · cases hs
    · cases hs
      cases ih hbody'
      rfl

theorem Reaches.cons {s : Stmt ε} {ss : List (Stmt ε)} {p : Progress ε} (hs : s.Complete)
    (h : Reaches ss p) : Reaches (s :: ss) ⟨s :: p.done, p.opened, p.stopped⟩ := by
  cases h with
  | ended h => exact .ended ⟨hs, h⟩
  | here h => exact @Reaches.here _ (s :: _) _ _ ⟨hs, h⟩
  | inside h hb => exact @Reaches.inside _ (s :: _) _ _ _ _ _ _ ⟨hs, h⟩ hb

theorem exists_reaches : (ss : List (Stmt ε)) → ∃ p, Reaches ss p
  | [] => ⟨_, .ended trivial⟩
  | .line text :: rest => by
    obtain ⟨p, hp⟩ := exists_reaches rest
    exact ⟨_, hp.cons (s := line text) trivial⟩
  | .abort _ :: _ => ⟨_, @Reaches.here _ [] _ _ trivial⟩
  | .block header body :: rest => by
    obtain ⟨⟨inner, opened, stopped⟩, hb⟩ := exists_reaches body
    cases stopped with
    | some cause => exact ⟨_, @Reaches.inside _ [] _ _ _ _ _ _ trivial hb⟩
    | none =>
      cases hb with
      | ended h =>
        obtain ⟨p, hp⟩ := exists_reaches rest
        exact ⟨_, hp.cons (s := block header _) h⟩

/-! ## The lines up to the point -/

section
variable (indent : Text) (depth : Int)

/-- The lines of the open blocks: each header, and one level deeper what ended inside. -/
def openLines : Int → List (OpenBlock ε) → List Text
  | _, [] => []
  | depth, o :: opened =>
    lineAt indent depth (Builder.opening o.header) :: (layoutAll indent (depth + 1) o.done).1 ++
      openLines (depth + 1) opened

/-- The closing lines of `n` open blocks, the first of them at `depth`: the innermost block is
closed first, each at the depth of its header. -/
def closingLines (n : Nat) : List Text :=
  (List.range n).reverse.map fun (i : Nat) => lineAt indent (depth + i) Builder.closing

theorem closingLines_succ (n : Nat) :
    closingLines indent depth (n + 1) =
      closingLines indent (depth + 1) n ++ [lineAt indent depth Builder.closing] := by
  rw [closingLines, closingLines, List.range_succ_eq_map, List.reverse_cons, List.map_append,
    ← List.map_reverse, List.map_map]
  congr 1
  · refine List.map_congr_left fun i _ => ?_
    have hdepth : depth + ((i + 1 : Nat) : Int) = depth + 1 + i := by omega
    exact congrArg (fun d => lineAt indent d Builder.closing) hdepth
  · exact congrArg (fun d => [lineAt indent d Builder.closing]) (Int.add_zero depth)

mutual

theorem layout_complete (depth : Int) : (s : Stmt ε) →
    s.Complete → (layout indent depth s).2 = none
  | .line _, _ => rfl
  | .block _ body, h => layoutAll_complete (depth + 1) body h
  | .abort _, h => h.elim

theorem layoutAll_complete (depth : Int) :
    (ss : List (Stmt ε)) → CompleteAll ss → (layoutAll indent depth ss).2 = none
  | [], _ => rfl
  | s :: rest, h => by
    have hs := layout_complete depth s h.1
    have hrest := layoutAll_complete depth rest h.2
    rw [layoutAll]
    generalize layout indent depth s = r at hs
    obtain ⟨lines, stopped⟩ := r
    cases hs
    exact hrest

end

theorem layoutAll_append {done : List (Stmt ε)} (h : CompleteAll done) (rest : List (Stmt ε)) :
    layoutAll indent depth (done ++ rest) =
      ((layoutAll indent depth done).1 ++ (layoutAll indent depth rest).1,
        (layoutAll indent depth rest).2) := by
  induction done with
  | nil => rfl
  | cons s done ih =>
    have hs := layout_complete indent depth s h.1
    rw [List.cons_append, layoutAll, layoutAll, ih h.2]
    generalize layout indent depth s = r at hs
    obtain ⟨lines, stopped⟩ := r
    cases hs
    simp only [List.append_assoc]

/-- **The lines of a program that gives up**: those of the statements that ended, those of the open
blocks, and their closing lines. -/
theorem layoutAll_of_reaches {ss : List (Stmt ε)} {p : Progress ε} (h : Reaches ss p) :
    layoutAll indent depth ss =
      ((layoutAll indent depth p.done).1 ++ openLines indent depth p.opened ++
        closingLines indent depth p.opened.length, p.stopped) := by
  induction h generalizing depth with
  | @ended ss h =>
    have hdone := layoutAll_complete indent depth ss h
    exact Prod.ext (by simp [openLines, closingLines]) hdone
  | here h =>
    rw [layoutAll_append indent depth h]
    simp [layoutAll, layout, openLines, closingLines]
  | @inside done rest body inner header opened cause h _ ih =>
    have hblock : layout indent depth (block header body) =
        (openLines indent depth (⟨header, inner⟩ :: opened) ++
          closingLines indent depth (opened.length + 1), some cause) := by
      rw [layout, ih (depth + 1), closingLines_succ]
      simp [openLines]
    rw [layoutAll_append indent depth h, layoutAll, hblock]
    simp

end

/-- **A run unwinds its open blocks.** Every program gets to one point. A run appends to the lines
that were there those of the statements that ended, those of the blocks still open at that point,
and one closing line for each of these, from the innermost out and at the depth of its header; it
stops for the cause of the program, if it gives up, and leaves depth and indentation unit as they
were. -/
theorem runAll_unwinds (b : Builder) (ss : List (Stmt ε)) :
    ∃ p : Progress ε, (∀ q, Reaches ss q ↔ q = p) ∧
      (runAll b ss).1.lines = b.lines ++ ((layoutAll b.indent b.depth p.done).1 ++
        openLines b.indent b.depth p.opened ++
        closingLines b.indent b.depth p.opened.length) ∧
      (runAll b ss).1.depth = b.depth ∧ (runAll b ss).1.indent = b.indent ∧
      (runAll b ss).2 = p.stopped := by
  obtain ⟨p, hp⟩ := exists_reaches ss
  refine ⟨p, fun q => ⟨fun hq => reaches_unique hp hq, fun hq => hq ▸ hp⟩, ?_⟩
  rw [runAll_eq_layoutAll, layoutAll_of_reaches b.indent b.depth hp]
  exact ⟨rfl, rfl, rfl, rfl⟩

/-- A program that gives up two blocks deep: both are closed, and the blank line before the point
has no indentation. -/
example :
    (runAll (.new "  ")
      [.block "a" [.line "x", .block "b" [.line "", .abort (), .line "y"]]]).1.lines =
      (["a \x7b", "  x", "  b \x7b", "", "  \x7d", "\x7d"] : List Text) := by
  decide

end BindingIndex.Source.Stmt
