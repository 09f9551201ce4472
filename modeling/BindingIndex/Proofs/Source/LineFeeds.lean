import BindingIndex.Proofs.Source.OpenBlocks
import BindingIndex.Proofs.Text.Splitting

/-!
# The lines of a text that was built

A text ends each line of its builder with a line feed, so the lines can be told from it if none of
them holds one. That is so for every builder that operations lead to which bring none in
(`Builder.Reached`): a line is made of copies of the indentation unit in force and of a text, at
whatever depth (`unbroken_lineAt`), and a run keeps both free of line feeds (`unbroken_run`).

* `pieces_generate`: split at its line feeds, the text is the lines and an empty piece at the end.
* `generate_eq_empty_iff`: only a builder without lines has no text.

Together: `generate_tells_lines`.
-/

namespace BindingIndex.Source

def IsUnbroken (t : Text) : Prop := CodePoint.char '\n' ∉ t

/-- What the operation brings into the builder holds no line feed. -/
def Step.IsUnbroken : Step → Prop
  | line text => Source.IsUnbroken text
  | enter header => Source.IsUnbroken header
  | setIndent indent => Source.IsUnbroken indent
  | _ => True

theorem unbroken_empty : IsUnbroken [] := List.not_mem_nil

theorem unbroken_append {s t : Text} (hs : IsUnbroken s) (ht : IsUnbroken t) :
    IsUnbroken (s ++ t) := by
  rw [IsUnbroken, List.mem_append, not_or]
  exact ⟨hs, ht⟩

theorem unbroken_opening {header : Text} (h : IsUnbroken header) :
    IsUnbroken (Builder.opening header) := by
  have hbrace : IsUnbroken " \x7b" := by
    rw [IsUnbroken]
    decide
  exact unbroken_append h hbrace

theorem unbroken_closing : IsUnbroken Builder.closing := by
  rw [IsUnbroken]
  decide

theorem unbroken_lineAt {indent text : Text} (hindent : IsUnbroken indent)
    (htext : IsUnbroken text) (depth : Int) : IsUnbroken (Stmt.lineAt indent depth text) := by
  have hmargin : IsUnbroken (List.replicate depth.toNat indent).flatten := by
    rw [IsUnbroken, List.mem_flatten]
    rintro ⟨unit, hunit, hfeed⟩
    obtain rfl := (List.mem_replicate.1 hunit).2
    exact hindent hfeed
  rw [Stmt.lineAt]
  split
  · exact unbroken_empty
  · exact unbroken_append hmargin htext

theorem unbroken_text {x : Step} {text : Text} (hx : x.IsUnbroken) (h : x.text? = some text) :
    IsUnbroken text := by
  cases x with
  | line own =>
    cases h
    exact hx
  | enter header =>
    cases h
    exact unbroken_opening hx
  | leave position =>
    cases h
    exact unbroken_closing
  | fail message position =>
    cases h
    exact unbroken_closing
  | _ => cases h

namespace Builder

/-- Neither the indentation unit nor a line holds a line feed. -/
structure Unbroken (b : Builder) : Prop where
  indent : IsUnbroken b.indent
  lines : ∀ l ∈ b.lines, IsUnbroken l

/-- The builder is what operations that bring in no line feed make of a new one. -/
def Reached (b : Builder) : Prop :=
  ∃ indent steps, IsUnbroken indent ∧ (∀ x ∈ steps, x.IsUnbroken) ∧
    b = ((Session.new indent).run steps).builder

end Builder

theorem unbroken_step {s : Session} {x : Step} (hs : s.builder.Unbroken) (hx : x.IsUnbroken) :
    (s.step x).builder.Unbroken := by
  constructor
  · rw [Session.indent_step]
    cases hi : x.indent? with
    | none => exact hs.indent
    | some unit =>
      cases x <;> cases hi
      exact hx
  · intro l hl
    rw [Session.lines_step, List.mem_append, Option.mem_toList, Option.map_eq_some_iff] at hl
    rcases hl with hl | ⟨text, htext, rfl⟩
    · exact hs.lines l hl
    · exact unbroken_lineAt hs.indent (unbroken_text hx htext) _

theorem unbroken_run {s : Session} {steps : List Step} (hs : s.builder.Unbroken)
    (h : ∀ x ∈ steps, x.IsUnbroken) : (s.run steps).builder.Unbroken := by
  induction steps generalizing s with
  | nil => exact hs
  | cons x rest ih =>
    obtain ⟨hx, hrest⟩ := List.forall_mem_cons.1 h
    exact ih (unbroken_step hs hx) hrest

namespace Builder

variable {b c : Builder}

theorem Reached.unbroken (h : b.Reached) : b.Unbroken := by
  obtain ⟨indent, steps, hindent, hsteps, rfl⟩ := h
  exact unbroken_run ⟨hindent, fun l hl => nomatch hl⟩ hsteps

/-! ## Text and lines -/

/-- **The pieces of a text** are the lines, and an empty one after the last line feed. -/
theorem Unbroken.pieces_generate (h : b.Unbroken) :
    b.generate.splitOn (.char '\n') = b.lines ++ [[]] := by
  have hsplit := Text.splitOn_ended h.lines []
  rwa [List.append_nil] at hsplit

theorem generate_eq_empty_iff (b : Builder) : b.generate = [] ↔ b.lines = [] := by
  rw [generate]
  cases b.lines with
  | nil => exact iff_of_true rfl rfl
  | cons l more => simp

/-- **A text tells its lines.** Let operations that bring in no line feed make a builder. Its text
is empty exactly if it has no lines. Split at its line feeds the text is the lines, blank ones
wherever they are included, and one empty piece at the end; so two such builders have the same text
exactly if they have the same lines. -/
theorem generate_tells_lines (h : b.Reached) :
    (b.generate = [] ↔ b.lines = []) ∧ b.generate.splitOn (.char '\n') = b.lines ++ [[]] ∧
    ∀ c : Builder, c.Reached → (b.generate = c.generate ↔ b.lines = c.lines) := by
  refine ⟨generate_eq_empty_iff b, h.unbroken.pieces_generate, fun c hc => ⟨fun heq => ?_, ?_⟩⟩
  · have hpieces := h.unbroken.pieces_generate
    rw [heq, hc.unbroken.pieces_generate] at hpieces
    exact (List.append_cancel_right hpieces).symm
  · intro heq
    rw [generate, generate, heq]

/-- A builder with blank lines around a block, which a failure closed. -/
def spaced : Builder :=
  ((Session.new "\t").run
    [.line "", .enter "a", .line "", .line "", .fail "x\ny", .line ""]).builder

def blank : Builder := ((Session.new "").run [.line ""]).builder

theorem reached_spaced : spaced.Reached := by
  refine ⟨_, _, ?_, ?_, rfl⟩
  · rw [IsUnbroken]
    decide
  · intro x hx
    simp only [List.mem_cons, List.not_mem_nil, or_false] at hx
    rcases hx with rfl | rfl | rfl | rfl | rfl | rfl <;> simp [Step.IsUnbroken, IsUnbroken]

theorem reached_blank : blank.Reached := by
  refine ⟨_, _, unbroken_empty, ?_, rfl⟩
  intro x hx
  obtain rfl := List.mem_singleton.1 hx
  exact unbroken_empty

theorem reached_new : (new "").Reached := ⟨_, [], unbroken_empty, (fun _ hx => nomatch hx), rfl⟩

theorem generate_tells_lines_spaced :
    spaced.Reached ∧ spaced.lines = (["", "a \x7b", "", "", "\x7d", ""] : List Text) ∧
    spaced.generate.splitOn (.char '\n') = (["", "a \x7b", "", "", "\x7d", "", ""] : List Text) ∧
    blank.Reached ∧ (new "").Reached ∧ blank.generate ≠ (new "").generate :=
  have h := generate_tells_lines reached_spaced
  have hblank := (generate_tells_lines reached_blank).2.2 (new "") reached_new
  ⟨reached_spaced, rfl, h.2.1, reached_blank, reached_new,
    fun heq => List.cons_ne_nil _ _ (hblank.1 heq)⟩

end Builder

end BindingIndex.Source
