import BindingIndex.Proofs.Console.Enclosed
import BindingIndex.Proofs.Text.Columns

/-!
# Markup that stands for itself

Text that is printed as markup is shown as it is if it is literal, no opening bracket in it starts a
tag and none follows a backslash, and if it has no emoji code. From all other texts something is
lost: a tag shows nothing, a backslash before a bracket is left out, and a code takes its colons
with it. White space cannot make up for that: `withoutBlanks_seen_eq_iff`.
-/

namespace BindingIndex.Console.Markup

open Text (withoutBlanks)

/-- Markup without its tags. -/
def bare (s : List Char) : List Char := (pieces s).flatMap Piece.shown

/-- Markup without its tags and with emoji for their codes. -/
def stripped (s : List Char) : List Char := (withEmoji (pieces s)).flatMap Piece.shown

/-- All that is seen of markup. -/
def seen (s : List Char) : List Char := (stripped s).filter (!isControl ·)

/-- Markup that stands for itself. -/
def Literal (s : List Char) : Prop :=
  ∀ before after, s = before ++ '[' :: after → tag? after = none ∧ before.getLast? ≠ some '\\'

/-! ## Literal texts -/

theorem literal_of_no_bracket {s : List Char} (h : '[' ∉ s) : Literal s := by
  rintro before after rfl
  simp at h

theorem Literal.of_append {a b : List Char} (h : Literal (a ++ b)) : Literal b := by
  rintro before after rfl
  obtain ⟨htag, hlast⟩ := h (a ++ before) after (by simp)
  refine ⟨htag, fun hb => hlast ?_⟩
  rw [List.getLast?_append, hb]
  rfl

theorem Literal.append {a b : List Char} (ha : '[' ∉ a) (hlast : a.getLast? ≠ some '\\')
    (h : Literal b) : Literal (a ++ b) := by
  intro before after heq
  rcases List.append_eq_append_iff.1 heq with ⟨x, rfl, hb⟩ | ⟨x, rfl, hx⟩
  · obtain ⟨htag, hx⟩ := h x after hb
    refine ⟨htag, ?_⟩
    rw [List.getLast?_append]
    cases hg : x.getLast? with
    | none => exact hlast
    | some c => rwa [hg] at hx
  · cases x with
    | nil =>
      rw [List.append_nil] at hlast
      exact ⟨(h [] after hx.symm).1, hlast⟩
    | cons c x =>
      obtain ⟨rfl, -⟩ := List.cons.inj hx
      simp at ha

theorem Literal.bracket {s : List Char} (h : Literal s) (htag : tag? s = none) :
    Literal ('[' :: s) := by
  intro before after heq
  cases before with
  | nil =>
    obtain rfl := (List.cons.inj heq).2
    exact ⟨htag, by decide⟩
  | cons c before =>
    obtain ⟨rfl, hs⟩ := List.cons.inj heq
    obtain ⟨htag', hlast⟩ := h before after hs
    refine ⟨htag', ?_⟩
    rw [← List.singleton_append, List.getLast?_append]
    cases hg : before.getLast? with
    | none => decide
    | some c => rwa [hg] at hlast

theorem toBracket?_isSome {s : List Char} (h : '[' ∉ s) (after : List Char) :
    (toBracket? (s ++ ']' :: after)).isSome = true := by
  induction s with
  | nil => rfl
  | cons c s ih =>
    rw [List.mem_cons, not_or] at h
    rw [List.cons_append, toBracket?]
    split
    · rfl
    · rw [if_neg (Ne.symm h.1), Option.isSome_map]
      exact ih h.2

theorem not_literal_of_tag {before body after : List Char} {c : Char} (hc : isTagStart c = true)
    (hbody : '[' ∉ body) : ¬ Literal (before ++ '[' :: c :: body ++ ']' :: after) := by
  intro h
  have hsome := toBracket?_isSome hbody after
  have hnone := (h before (c :: body ++ ']' :: after) (by simp)).1
  rw [List.cons_append, tag?, if_pos hc, Option.map_eq_none_iff] at hnone
  rw [hnone] at hsome
  cases hsome

/-! ## What is seen -/

theorem eq_of_toBracket? {s body after : List Char} (h : toBracket? s = some (body, after)) :
    s = body ++ ']' :: after := by
  induction s generalizing body with
  | nil => cases h
  | cons c s ih =>
    rw [toBracket?] at h
    split at h
    · rename_i hc
      cases h
      rw [hc]
      rfl
    · split at h
      · cases h
      · obtain ⟨⟨body', after'⟩, hs, heq⟩ := Option.map_eq_some_iff.1 h
        cases heq
        rw [ih hs]
        rfl

theorem eq_of_tag? {s body after : List Char} (h : tag? s = some (body, after)) :
    s = body ++ ']' :: after := by
  cases s with
  | nil => cases h
  | cons c s =>
    rw [tag?] at h
    split at h
    · obtain ⟨⟨body', after'⟩, hs, heq⟩ := Option.map_eq_some_iff.1 h
      cases heq
      rw [eq_of_toBracket? hs]
      rfl
    · cases h

theorem backslashes_succ_append (n : Nat) (s : List Char) :
    backslashes (n + 1) ++ s = backslashes n ++ '\\' :: s := by
  simp [backslashes, List.replicate_succ']

/-- **Literal text** is all text, and loses nothing. -/
theorem piecesFrom_of_literal (position slashes : Nat) {s : List Char}
    (h : Literal (backslashes slashes ++ s)) :
    ∃ texts : List (List Char), piecesFrom position slashes s = texts.map (Piece.text false) ∧
      texts.flatten = backslashes slashes ++ s := by
  fun_induction piecesFrom position slashes s with
  | case1 position slashes => exact ⟨[backslashes slashes], rfl, by simp⟩
  | case2 position slashes rest ih =>
    rw [← backslashes_succ_append] at h ⊢
    exact ih h
  | case3 position slashes rest htag _ ih =>
    -- a backslash before the bracket would be left out, but there is none
    obtain ⟨-, hlast⟩ := h (backslashes slashes) rest rfl
    obtain rfl : slashes = 0 := by
      cases slashes with
      | zero => rfl
      | succ n => simp [backslashes, List.replicate_succ'] at hlast
    obtain ⟨texts, hpieces, hflatten⟩ := ih (Literal.of_append (a := ['[']) h)
    exact ⟨['['] :: texts, by rw [hpieces]; rfl, by rw [List.flatten_cons, hflatten]; rfl⟩
  | case4 position slashes rest body after htag _ _ hc hodd ih =>
    rw [(h (backslashes slashes) rest rfl).1] at htag
    cases htag
  | case5 position slashes rest body after htag _ _ hc heven ih =>
    rw [(h (backslashes slashes) rest rfl).1] at htag
    cases htag
  | case6 position slashes c rest hslash hbracket ih =>
    have hrest : Literal rest :=
      Literal.of_append (a := backslashes slashes ++ [c]) (by simpa using h)
    obtain ⟨texts, hpieces, hflatten⟩ := ih hrest
    refine ⟨(backslashes slashes ++ [c]) :: texts, by rw [hpieces]; rfl, ?_⟩
    rw [List.flatten_cons, hflatten]
    simp [backslashes]

/-- How many characters of a text are no white space. -/
def inked (s : List Char) : Nat := (withoutBlanks s).length

@[simp] theorem inked_append (a b : List Char) : inked (a ++ b) = inked a + inked b := by
  simp [inked]

@[simp] theorem inked_nil : inked [] = 0 := rfl

theorem inked_cons (c : Char) (s : List Char) : inked (c :: s) = inked [c] + inked s :=
  inked_append [c] s

theorem inked_bracket {c : Char} (h : c = '[' ∨ c = ']') (s : List Char) :
    inked (c :: s) = inked s + 1 := by
  have hone : inked [c] = 1 := by rcases h with rfl | rfl <;> decide
  rw [inked_cons, hone, Nat.add_comm]

theorem inked_of_tag? {s body after : List Char} (h : tag? s = some (body, after)) :
    inked s = inked body + inked after + 1 := by
  rw [eq_of_tag? h, inked_append, inked_bracket (.inr rfl), Nat.add_assoc]

@[simp] theorem inked_backslashes (n : Nat) : inked (backslashes n) = n := by
  have hblank : Text.isBlank '\\' = false := by decide
  simp [inked, withoutBlanks, backslashes, hblank]

/-- **Any other text** loses a character that is no white space. -/
theorem inked_shown_cases (position slashes : Nat) (s : List Char) :
    inked ((piecesFrom position slashes s).flatMap Piece.shown) < slashes + inked s ∨
    (inked ((piecesFrom position slashes s).flatMap Piece.shown) = slashes + inked s ∧
      Literal (backslashes slashes ++ s)) := by
  fun_induction piecesFrom position slashes s with
  | case1 position slashes =>
    have hnone : '[' ∉ backslashes slashes ++ [] := by simp [backslashes]
    exact .inr ⟨by simp [Piece.shown], literal_of_no_bracket hnone⟩
  | case2 position slashes rest ih =>
    have hslash : inked ['\\'] = 1 := by decide
    rw [backslashes_succ_append] at ih
    rw [inked_cons '\\' rest, hslash]
    rcases ih with hless | ⟨heq, hrest⟩
    · exact .inl (by omega)
    · exact .inr ⟨by omega, hrest⟩
  | case3 position slashes rest htag _ ih =>
    have hopen : inked ['['] = 1 := by decide
    rw [List.flatMap_cons, Piece.shown, inked_append, inked_append, inked_backslashes, hopen,
      inked_bracket (.inl rfl)]
    rcases ih with hless | ⟨heq, hrest⟩
    · omega
    · by_cases hslashes : slashes = 0
      · subst hslashes
        exact .inr ⟨by omega, Literal.bracket hrest htag⟩
      · omega
  | case4 position slashes rest body after htag _ next hodd _ ih =>
    -- of the backslashes before a tag at most half are left
    have hnext : inked (next.flatMap Piece.shown) ≤ inked after := by
      show inked ((piecesFrom _ _ _).flatMap Piece.shown) ≤ _
      omega
    have hclose : inked [']'] = 1 := by decide
    rw [List.flatMap_cons, Piece.shown, inked_append, inked_append, inked_append, inked_backslashes,
      hclose, inked_bracket (.inl rfl), inked_bracket (.inl rfl), inked_of_tag? htag]
    omega
  | case5 position slashes rest body after htag _ next heven _ ih =>
    have hnext : inked (next.flatMap Piece.shown) ≤ inked after := by
      show inked ((piecesFrom _ _ _).flatMap Piece.shown) ≤ _
      omega
    rw [List.flatMap_cons, List.flatMap_cons, Piece.shown, Piece.shown, inked_append, inked_append,
      inked_backslashes, inked_nil, inked_bracket (.inl rfl), inked_of_tag? htag]
    omega
  | case6 position slashes c rest hslash hbracket ih =>
    rw [List.flatMap_cons, Piece.shown, inked_append, inked_append, inked_backslashes,
      inked_cons c rest]
    rcases ih with hless | ⟨heq, hrest⟩
    · omega
    · refine .inr ⟨by omega, ?_⟩
      have hnone : '[' ∉ backslashes slashes ++ [c] := by simp [backslashes, Ne.symm hbracket]
      have hlast : (backslashes slashes ++ [c]).getLast? ≠ some '\\' := by simpa using hslash
      have hall := Literal.append hnone hlast hrest
      rwa [List.append_assoc] at hall

theorem bare_of_literal {s : List Char} (h : Literal s) : bare s = s := by
  obtain ⟨texts, hpieces, hflatten⟩ := piecesFrom_of_literal 0 0 h
  have hshown : (texts.map (Piece.text false)).flatMap Piece.shown = texts.flatten := by
    rw [List.flatMap_map, List.flatMap_def]
    exact congrArg List.flatten (List.map_id texts)
  rw [bare, pieces, hpieces, hshown, hflatten]
  rfl

theorem stripped_of_literal {s : List Char} (h : Literal s) : stripped s = Emoji.replaced s := by
  obtain ⟨texts, hpieces, hflatten⟩ := piecesFrom_of_literal 0 0 h
  rw [stripped, pieces, hpieces, shown_withEmoji_texts, hflatten]
  rfl

theorem withoutBlanks_bare_eq_iff {s : List Char} :
    withoutBlanks (bare s) = withoutBlanks s ↔ Literal s := by
  constructor
  · intro h
    have hinked : inked (bare s) = inked s := congrArg List.length h
    rcases inked_shown_cases 0 0 s with hless | ⟨-, hliteral⟩
    · rw [bare, pieces] at hinked
      omega
    · exact hliteral
  · intro h
    rw [bare_of_literal h]

theorem shown_sublist (position slashes : Nat) (s : List Char) :
    ((piecesFrom position slashes s).flatMap Piece.shown).Sublist (backslashes slashes ++ s) := by
  have hfewer : ∀ {m n : Nat}, m ≤ n → (backslashes m).Sublist (backslashes n) := fun h =>
    (List.replicate_sublist_replicate _).2 h
  fun_induction piecesFrom position slashes s with
  | case1 position slashes => simp [Piece.shown]
  | case2 position slashes rest ih =>
    rwa [← backslashes_succ_append]
  | case3 position slashes rest htag _ ih =>
    rw [List.flatMap_cons, Piece.shown, List.append_assoc]
    exact (hfewer (by omega)).append (ih.cons_cons '[')
  | case4 position slashes rest body after htag _ next hodd _ ih =>
    rw [List.flatMap_cons, Piece.shown, List.append_assoc, List.append_assoc, eq_of_tag? htag]
    refine (hfewer (Nat.div_le_self slashes 2)).append (List.Sublist.cons_cons '[' ?_)
    exact (List.Sublist.refl body).append (ih.cons_cons ']')
  | case5 position slashes rest body after htag _ next heven _ ih =>
    rw [List.flatMap_cons, List.flatMap_cons, Piece.shown, Piece.shown, eq_of_tag? htag]
    refine (hfewer (Nat.div_le_self slashes 2)).append ?_
    have hafter := (List.sublist_cons_self ']' after).trans (List.sublist_append_right body _)
    exact ih.trans (hafter.cons _)
  | case6 position slashes c rest hslash hbracket ih =>
    rw [List.flatMap_cons, Piece.shown, List.append_assoc]
    exact (List.Sublist.refl _).append (ih.cons_cons c)

theorem bare_sublist (s : List Char) : (bare s).Sublist s := shown_sublist 0 0 s

/-- Markup that is shown as it is. -/
def Verbatim (s : List Char) : Prop := Literal s ∧ Emoji.replaced s = s

theorem seen_of_verbatim {s : List Char} (h : Verbatim s) (hquiet : ∀ c ∈ s, isControl c = false) :
    seen s = s := by
  rw [seen, stripped_of_literal h.1, h.2, List.filter_eq_self]
  exact fun c hc => by rw [hquiet c hc]; rfl

theorem count_withoutBlanks {c : Char} (h : Text.isBlank c = false) (s : List Char) :
    (withoutBlanks s).count c = s.count c := List.count_filter (by simp [h])

/-- **Only verbatim markup is shown in full**, even where white space does not count. -/
theorem withoutBlanks_seen_eq_iff {s : List Char} (hquiet : ∀ c ∈ s, isControl c = false) :
    withoutBlanks (seen s) = withoutBlanks s ↔ Verbatim s := by
  constructor
  · intro h
    -- all colons are seen, so no code was replaced
    have hcolon : Text.isBlank ':' = false := by decide
    have hcount : (stripped s).count ':' = s.count ':' := by
      rw [← count_withoutBlanks hcolon s, ← h, count_withoutBlanks hcolon, seen,
        List.count_filter (by decide)]
    have hstripped : stripped s = bare s := by
      refine (shown_withEmoji_cases (pieces s)).resolve_right fun hless => ?_
      have hle := (bare_sublist s).count_le ':'
      rw [stripped] at hcount
      rw [bare] at hle
      omega
    have hseen : seen s = bare s := by
      rw [seen, hstripped, List.filter_eq_self]
      exact fun c hc => by rw [hquiet c ((bare_sublist s).mem hc)]; rfl
    rw [hseen] at h
    have hliteral := withoutBlanks_bare_eq_iff.1 h
    rw [stripped_of_literal hliteral, bare_of_literal hliteral] at hstripped
    exact ⟨hliteral, hstripped⟩
  · intro h
    rw [seen_of_verbatim h hquiet]

theorem unplaced_piecesFrom (position other slashes : Nat) (s : List Char) :
    (piecesFrom position slashes s).map Piece.unplaced =
      (piecesFrom other slashes s).map Piece.unplaced := by
  fun_induction piecesFrom position slashes s generalizing other with
  | case1 position slashes => rw [piecesFrom]
  | case2 position slashes rest ih => rw [piecesFrom_backslash, ih (other + 1)]
  | case3 position slashes rest htag _ ih =>
    rw [piecesFrom_open, htag, List.map_cons, List.map_cons, ih (other + 1)]
  | case4 position slashes rest body after htag _ next hodd _ ih =>
    rw [piecesFrom_open, htag]
    dsimp only
    rw [if_pos hodd, List.map_cons, List.map_cons, ← ih (other + body.length + 2)]
  | case5 position slashes rest body after htag _ next heven _ ih =>
    rw [piecesFrom_open, htag]
    dsimp only
    rw [if_neg heven, List.map_cons, List.map_cons, List.map_cons, List.map_cons,
      ← ih (other + body.length + 2)]
    rfl
  | case6 position slashes c rest hslash hbracket ih =>
    rw [piecesFrom_text hslash hbracket, List.map_cons, List.map_cons, ih (other + 1)]

/-! ## Reading -/

/-- **The text that is read** is what is seen of the markup, without control characters. -/
theorem text_of_readFrom {ps : List Piece} {offset : Nat} {opened : List OpenTag} {text : List Char}
    {spans : List Span} (h : readFrom offset opened ps = .ok (text, spans)) :
    text = (ps.flatMap Piece.shown).filter (!isControl ·) := by
  induction ps generalizing offset opened text spans with
  | nil =>
    cases h
    rfl
  | cons p ps ih =>
    cases p with
    | text alone s =>
      rw [readFrom] at h
      obtain ⟨r, hr, h⟩ := bind_eq_ok_iff.1 h
      cases h
      rw [List.flatMap_cons, List.filter_append, ← ih hr]
      rfl
    | tag position body =>
      rw [readFrom] at h
      split at h
      · obtain ⟨⟨t, opened'⟩, -, h⟩ := bind_eq_ok_iff.1 h
        obtain ⟨span, -, h⟩ := bind_eq_ok_iff.1 h
        obtain ⟨r, hr, h⟩ := bind_eq_ok_iff.1 h
        cases h
        exact ih hr
      · obtain ⟨style, -, h⟩ := bind_eq_ok_iff.1 h
        exact ih h

theorem text_of_read {s : List Char} {t : StyledText} (h : read s = .ok t) :
    t.text = seen s := by
  obtain ⟨r, hr, h⟩ := bind_eq_ok_iff.1 h
  cases h
  exact text_of_readFrom hr

end BindingIndex.Console.Markup
