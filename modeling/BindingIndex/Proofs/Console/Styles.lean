import BindingIndex.Console.Print
import BindingIndex.Proofs.Results

/-!
# Styles on the way to the screen

A text is cut, filled, indented and joined before it is printed, and spans are moved and cut with
it. No style comes in on the way: what holds of the styles of a text holds of those of its lines
(`StylesIn.wrapLines`). A highlight has none. So a paragraph can only fail over its markup, or over
a style that the markup names (`paragraph_of_read`).
-/

namespace BindingIndex.Console

namespace StyledText

/-- Every span of the text has a style of this kind. -/
def StylesIn (P : Option String → Prop) (t : StyledText) : Prop := ∀ s ∈ t.spans, P s.style

variable {P : Option String → Prop} {t u : StyledText}

/-! ## Cutting -/

theorem style_of_within? {start stop : Nat} {s r : Span}
    (h : Span.within? start stop s = some r) : r.style = s.style := by
  unfold Span.within? at h
  dsimp only at h
  split at h
  · cases h
    rfl
  · cases h

theorem style_of_before? {size : Nat} {s r : Span} (h : Span.before? size s = some r) :
    r.style = s.style := by
  unfold Span.before? at h
  split at h
  · cases h
    rfl
  · cases h

theorem StylesIn.slice (h : StylesIn P t) (start stop : Nat) : StylesIn P (t.slice start stop) := by
  intro r hr
  obtain ⟨s, hs, hrs⟩ := List.mem_filterMap.1 hr
  rw [style_of_within? hrs]
  exact h s hs

theorem StylesIn.slices (h : StylesIn P t) (gap start : Nat) (lengths : List Nat) :
    ∀ u ∈ t.slices gap start lengths, StylesIn P u := by
  induction lengths generalizing start with
  | nil => intro u hu; cases hu
  | cons n lengths ih =>
    intro u hu
    rcases List.mem_cons.1 hu with rfl | hu
    · exact h.slice _ _
    · exact ih _ u hu

theorem StylesIn.cut (h : StylesIn P t) (gap : Nat) (lengths : List Nat) :
    ∀ u ∈ t.cut gap lengths, StylesIn P u := by
  unfold StyledText.cut
  split
  · exact h.slices _ _ _
  · intro u hu
    rw [List.mem_singleton.1 hu]
    exact h

theorem StylesIn.lines (h : StylesIn P t) : ∀ u ∈ t.lines, StylesIn P u := h.cut _ _

/-! ## Changing the characters -/

theorem StylesIn.withText (h : StylesIn P t) (s : List Char) : StylesIn P (t.withText s) := by
  intro r hr
  unfold StyledText.withText at hr
  dsimp only at hr
  split at hr
  · obtain ⟨s, hs, hrs⟩ := List.mem_filterMap.1 hr
    rw [style_of_before? hrs]
    exact h s hs
  · exact h r hr

theorem StylesIn.indent (h : StylesIn P t) (n : Nat) : StylesIn P (t.indent n) := by
  intro r hr
  obtain ⟨s, hs, rfl⟩ := List.mem_map.1 hr
  exact h s hs

theorem StylesIn.append (ht : StylesIn P t) (hu : StylesIn P u) : StylesIn P (t.append u) := by
  intro r hr
  rcases List.mem_append.1 hr with hr | hr
  · exact ht r hr
  · obtain ⟨s, hs, rfl⟩ := List.mem_map.1 hr
    exact hu s hs

theorem StylesIn.extend (h : StylesIn P t) (n : Nat) : StylesIn P (t.extend n) := by
  intro r hr
  obtain ⟨s, hs, rfl⟩ := List.mem_map.1 hr
  split
  · exact h s hs
  · exact h s hs

theorem stylesIn_joinTabbed {pieces : List StyledText} (h : ∀ u ∈ pieces, StylesIn P u)
    (column : Nat) : StylesIn P (joinTabbed column pieces) := by
  induction pieces generalizing column with
  | nil => intro r hr; cases hr
  | cons t pieces ih =>
    have ht := h t (.head _)
    have hrest := ih fun u hu => h u (.tail _ hu)
    rw [joinTabbed]
    split
    · exact ((ht.withText _).extend _).append (hrest _)
    · exact ht.append (hrest _)

theorem StylesIn.expandTabs (h : StylesIn P t) : StylesIn P t.expandTabs := by
  unfold StyledText.expandTabs
  split
  · exact stylesIn_joinTabbed (h.cut _ _) 0
  · exact h

/-! ## Setting lines -/

theorem StylesIn.shorten (h : StylesIn P t) (width : Nat) (overflow : Wrap.Overflow) :
    StylesIn P (Wrap.shorten width overflow t) := by
  unfold Wrap.shorten
  split
  · exact h
  · cases overflow with
    | fold => exact h.withText _
    | ellipsis => exact h.withText _

theorem StylesIn.aligned (h : StylesIn P t) (width : Nat) (overflow : Wrap.Overflow)
    (align : Wrap.Align) : StylesIn P (Wrap.aligned width overflow align t) := by
  cases align with
  | free => exact h.shorten _ _
  | left => exact (h.shorten _ _).withText _
  | center => exact (((h.withText _).shorten _ _).indent _).withText _
  | right => exact ((h.withText _).shorten _ _).indent _

theorem StylesIn.wrapLines (h : StylesIn P t) (width : Nat) (overflow : Wrap.Overflow)
    (align : Wrap.Align) : ∀ u ∈ Wrap.lines width overflow align t, StylesIn P u := by
  intro u hu
  obtain ⟨line, hline, hu⟩ := List.mem_flatMap.1 hu
  obtain ⟨piece, hpiece, rfl⟩ := List.mem_map.1 hu
  have hl := (h.lines line hline).expandTabs
  exact ((hl.cut _ _ piece hpiece).withText _).aligned _ _ _

theorem StylesIn.highlighted (h : StylesIn P t) (hnone : P none) : StylesIn P t.highlighted := by
  intro r hr
  rcases List.mem_append.1 hr with hr | hr
  · obtain ⟨p, -, hr⟩ := List.mem_flatMap.1 hr
    obtain ⟨m, -, rfl⟩ := List.mem_map.1 hr
    exact hnone
  · exact h r hr

end StyledText

open StyledText

/-- The style can be looked up. -/
def Markup.Known (style : Option String) : Prop :=
  ∃ name, Markup.normalName (style.getD "").toList = .ok name

theorem Markup.known_none : Markup.Known none := ⟨"none", rfl⟩

theorem checkStyles_eq_ok {t : StyledText} (h : StylesIn Markup.Known t) :
    Markup.checkStyles t = .ok () := by
  refine forM_eq_ok fun s hs => ?_
  obtain ⟨name, hname⟩ := h s hs
  rw [hname]
  rfl

theorem setText_eq_ok {t : StyledText} (h : StylesIn Markup.Known t) (width : Nat)
    (overflow : Wrap.Overflow) (align : Wrap.Align) :
    setText width overflow align t =
      .ok ((Wrap.lines width overflow align t).map StyledText.parts) := by
  have hlines := h.wrapLines width overflow align
  have hcheck : (Wrap.lines width overflow align t).forM Markup.checkStyles = .ok () :=
    forM_eq_ok fun u hu => checkStyles_eq_ok (hlines u hu)
  unfold setText
  dsimp only
  rw [hcheck]
  rfl

/-- **A paragraph is shown** if its markup can be read and names no style that cannot be looked up.
-/
theorem paragraph_of_read {markup : String} {t : StyledText}
    (hread : Markup.read markup.toList = .ok t) (ht : StylesIn Markup.Known t) :
    ∃ shown, paragraph markup = .ok shown := by
  have hset := setText_eq_ok (ht.highlighted Markup.known_none) width .fold .free
  refine ⟨screen ((Wrap.lines width .fold .free t.highlighted).map StyledText.parts), ?_⟩
  unfold paragraph
  rw [hread]
  show (do let ls ← setText width .fold .free t.highlighted; pure (screen ls)) = _
  rw [hset]
  rfl

end BindingIndex.Console
