import BindingIndex.Console.Markup
import BindingIndex.Proofs.Text.Splitting

/-!
# Emoji in place of their codes

A code has two colons and an emoji has none. So a text in which a code is replaced has fewer colons
than before, and a text that keeps its colons has no code (`Emoji.replaced_cases`); in markup the
same is true of all its texts together (`Markup.shown_withEmoji_cases`). What the names are does not
matter: nothing here looks into the table of them.
-/

namespace BindingIndex.Console

namespace Emoji

/-! ## The emoji of a name -/

theorem mem_of_behind? {name emoji : List Char} {ws : List (List Char)}
    (h : behind? name ws = some emoji) : emoji ∈ ws := by
  fun_induction behind? name ws with
  | case1 e rest =>
    obtain rfl := Option.some.inj h
    exact .tail _ (.head _)
  | case2 other e rest _ ih => exact .tail _ (.tail _ (ih h))
  | case3 => cases h

theorem colon_not_mem_of_behind? {name emoji : List Char} {lines : List String}
    (h : behind? name (words lines) = some emoji) : ':' ∉ emoji := by
  obtain ⟨l, -, hl⟩ := List.mem_flatMap.1 (mem_of_behind? h)
  exact Text.not_mem_of_mem_splitOn hl

theorem mem_of_splitEnding {endings : List (String × Char)} {word base : List Char} {sign : Char}
    (h : splitEnding endings word = (base, some sign)) : sign ∈ endings.map Prod.snd := by
  unfold splitEnding at h
  split at h
  · rename_i e hfound
    obtain ⟨-, hsign⟩ := Prod.mk.inj h
    obtain rfl := Option.some.inj hsign
    exact List.mem_map_of_mem (List.mem_of_find?_eq_some hfound)
  · cases (Prod.mk.inj h).2

theorem colon_not_mem_withTone {tone : Char} (ht : tone ≠ ':') {emoji : List Char}
    (h : ':' ∉ emoji) : ':' ∉ withTone tone emoji := by
  cases emoji with
  | nil => exact h
  | cons c rest =>
    rw [List.mem_cons, not_or] at h
    simp only [withTone, List.mem_cons, not_or]
    exact ⟨h.1, ht.symm, fun hc => h.2 ((List.dropWhile_sublist _).mem hc)⟩

theorem colon_not_mem_of_named? {name emoji : List Char} (h : named? name = some emoji) :
    ':' ∉ emoji := by
  unfold named? at h
  split at h
  · rename_i hfound
    obtain rfl := Option.some.inj h
    exact colon_not_mem_of_behind? hfound
  · rename_i tone _ hending
    split at h
    · obtain ⟨plain, hplain, rfl⟩ := Option.map_eq_some_iff.1 h
      have htone : tone ≠ ':' := by
        have hnone : ':' ∉ tones.map Prod.snd := by decide
        rintro rfl
        exact hnone (mem_of_splitEnding hending)
      exact colon_not_mem_withTone htone (colon_not_mem_of_behind? hplain)
    · cases h
  · cases h

theorem colon_not_mem_of_emoji? {word emoji : List Char} (h : emoji? word = some emoji) :
    ':' ∉ emoji := by
  unfold emoji? at h
  split at h
  rename_i name sign hending
  obtain ⟨plain, hplain, rfl⟩ := Option.map_eq_some_iff.1 h
  have hsign : ':' ∉ sign.toList := by
    cases sign with
    | none => exact List.not_mem_nil
    | some c =>
      have hnone : ':' ∉ variants.map Prod.snd := by decide
      intro hc
      obtain rfl := List.mem_singleton.1 hc
      exact hnone (mem_of_splitEnding hending)
  rw [List.mem_append, not_or]
  exact ⟨colon_not_mem_of_named? hplain, hsign⟩

/-! ## Texts with codes -/

theorem eq_of_toColon? {s word after : List Char} (h : toColon? s = some (word, after)) :
    s = word ++ ':' :: after := by
  induction s generalizing word with
  | nil => cases h
  | cons c s ih =>
    rw [toColon?] at h
    split at h
    · rename_i hc
      cases h
      rw [hc]
      rfl
    · split at h
      · cases h
      · obtain ⟨⟨word', after'⟩, hs, heq⟩ := Option.map_eq_some_iff.1 h
        cases heq
        rw [ih hs]
        rfl

/-- **A text with a code** has fewer colons once the code is replaced, and any other stays. -/
theorem replaced_cases (s : List Char) :
    replaced s = s ∨ (replaced s).count ':' < s.count ':' := by
  fun_induction replaced s with
  | case1 => exact .inl rfl
  | case2 rest word after hword _ ih =>
    rw [eq_of_toColon? hword]
    cases hemoji : emoji? word with
    | none =>
      rcases ih with hsame | hless
      · exact .inl (by simp [hsame])
      · refine .inr ?_
        simp only [Option.getD_none, List.count_append, List.count_cons_self, List.cons_append,
          List.count_nil]
        omega
    | some emoji =>
      have hnone : emoji.count ':' = 0 := List.count_eq_zero.2 (colon_not_mem_of_emoji? hemoji)
      have hafter : (replaced after).count ':' ≤ after.count ':' :=
        ih.elim (fun hsame => Nat.le_of_eq (congrArg _ hsame)) Nat.le_of_lt
      refine .inr ?_
      simp only [Option.getD_some, List.count_append, List.count_cons_self, hnone]
      omega
  | case3 rest _ ih =>
    rcases ih with hsame | hless
    · exact .inl (by rw [hsame])
    · exact .inr (by rw [List.count_cons_self, List.count_cons_self]; omega)
  | case4 c rest hc ih =>
    rcases ih with hsame | hless
    · exact .inl (by rw [hsame])
    · exact .inr (by rwa [List.count_cons_of_ne hc, List.count_cons_of_ne hc])

@[simp] theorem replaced_nil : replaced [] = [] := by rw [replaced]

theorem replaced_append {a : List Char} (h : ':' ∉ a) (b : List Char) :
    replaced (a ++ b) = a ++ replaced b := by
  induction a with
  | nil => rfl
  | cons c a ih =>
    rw [List.mem_cons, not_or] at h
    rw [List.cons_append, replaced, if_neg (Ne.symm h.1), ih h.2]
    rfl

theorem replaced_of_colon_not_mem {s : List Char} (h : ':' ∉ s) : replaced s = s := by
  simpa using replaced_append h []

theorem replaced_of_colon {a b : List Char} (ha : ':' ∉ a) (hb : ':' ∉ b) :
    replaced (a ++ ':' :: b) = a ++ ':' :: b := by
  have hnone : toColon? b = none := by
    cases hb' : toColon? b with
    | none => rfl
    | some found => rw [eq_of_toColon? hb'] at hb; simp at hb
  rw [replaced_append ha, replaced, if_pos rfl]
  split
  · rename_i hsome
    rw [hnone] at hsome
    cases hsome
  · rw [replaced_of_colon_not_mem hb]

end Emoji

namespace Markup

/-- What a piece shows. -/
def Piece.shown : Piece → List Char
  | text _ s => s
  | tag _ _ => []

def Piece.body? : Piece → Option (List Char)
  | text _ _ => none
  | tag _ body => some body

/-! ## Joined texts -/

theorem joined_append_tag (ps : List Piece) (position : Nat) (body : List Char)
    (more : List Piece) :
    joined (ps ++ .tag position body :: more) = joined ps ++ .tag position body :: joined more := by
  fun_induction joined ps with
  | case1 => rfl
  | case2 s rest t more' hrest ih =>
    rw [List.cons_append, joined, ih, hrest]
    rfl
  | case3 s rest hrest ih =>
    rw [List.cons_append, joined, ih]
    cases hjoined : joined rest with
    | nil => rfl
    | cons p ps =>
      split
      · rename_i heq
        obtain ⟨rfl, -⟩ := List.cons.inj heq
        exact absurd hjoined (hrest _ _)
      · rfl
  | case4 p rest hp ih =>
    rw [List.cons_append, joined, ih]
    · rfl
    · exact hp

theorem shown_joined (ps : List Piece) :
    (joined ps).flatMap Piece.shown = ps.flatMap Piece.shown := by
  fun_induction joined ps with
  | case1 => rfl
  | case2 s rest t more hrest ih =>
    rw [hrest] at ih
    rw [List.flatMap_cons, List.flatMap_cons, ← ih, List.flatMap_cons, ← List.append_assoc]
    rfl
  | case3 s rest _ ih => rw [List.flatMap_cons, List.flatMap_cons, ih]
  | case4 p rest _ ih => rw [List.flatMap_cons, List.flatMap_cons, ih]

theorem filterMap_body?_joined (ps : List Piece) :
    (joined ps).filterMap Piece.body? = ps.filterMap Piece.body? := by
  fun_induction joined ps with
  | case1 => rfl
  | case2 s rest t more hrest ih =>
    rw [hrest] at ih
    exact ih
  | case3 s rest _ ih => exact ih
  | case4 p rest _ ih => rw [List.filterMap_cons, List.filterMap_cons, ih]

theorem joined_texts (s : List Char) (texts : List (List Char)) :
    joined ((s :: texts).map (Piece.text false)) = [.text false (s :: texts).flatten] := by
  induction texts generalizing s with
  | nil => simp [joined]
  | cons t texts ih => rw [List.map_cons, joined, ih t]; rfl

/-! ## Markup with emoji -/

theorem withEmoji_append_tag (ps : List Piece) (position : Nat) (body : List Char)
    (more : List Piece) :
    withEmoji (ps ++ .tag position body :: more) =
      withEmoji ps ++ .tag position body :: withEmoji more := by
  rw [withEmoji, joined_append_tag, List.map_append]
  rfl

@[simp] theorem filterMap_body?_withEmoji (ps : List Piece) :
    (withEmoji ps).filterMap Piece.body? = ps.filterMap Piece.body? := by
  have hbody : Piece.body? ∘ Piece.withEmoji = Piece.body? := by
    funext p
    cases p <;> rfl
  rw [← filterMap_body?_joined ps, withEmoji, List.filterMap_map, hbody]

/-- Emoji are found in all of a text, however it is cut. -/
theorem shown_withEmoji_texts (texts : List (List Char)) :
    (withEmoji (texts.map (Piece.text false))).flatMap Piece.shown =
      Emoji.replaced texts.flatten := by
  cases texts with
  | nil => simp [withEmoji, joined]
  | cons s texts =>
    rw [withEmoji, joined_texts]
    exact List.append_nil _

theorem shown_withEmoji_cons {s : List Char} (h : ':' ∉ s) (ps : List Piece) :
    (withEmoji (.text false s :: ps)).flatMap Piece.shown =
      s ++ (withEmoji ps).flatMap Piece.shown := by
  rw [withEmoji, withEmoji, joined]
  split
  · rename_i t more hps
    rw [hps, List.map_cons, List.map_cons, List.flatMap_cons, List.flatMap_cons, ← List.append_assoc]
    show Emoji.replaced (s ++ t) ++ _ = _
    rw [Emoji.replaced_append h]
    rfl
  · rw [List.map_cons, List.flatMap_cons]
    show Emoji.replaced s ++ _ = _
    rw [Emoji.replaced_of_colon_not_mem h]

/-- **Markup with a code** in it shows fewer colons than it has. -/
theorem shown_withEmoji_cases (ps : List Piece) :
    (withEmoji ps).flatMap Piece.shown = ps.flatMap Piece.shown ∨
      ((withEmoji ps).flatMap Piece.shown).count ':' < (ps.flatMap Piece.shown).count ':' := by
  rw [← shown_joined ps, withEmoji]
  induction joined ps with
  | nil => exact .inl rfl
  | cons p qs ih =>
    rw [List.map_cons, List.flatMap_cons, List.flatMap_cons, List.count_append, List.count_append]
    have hpiece : p.withEmoji.shown = p.shown ∨ p.withEmoji.shown.count ':' < p.shown.count ':' := by
      cases p with
      | text alone s => exact Emoji.replaced_cases s
      | tag position body => exact .inl rfl
    rcases hpiece with hsame | hless <;> rcases ih with hrest | hrest
    · exact .inl (by rw [hsame, hrest])
    · exact .inr (by rw [hsame]; omega)
    · exact .inr (by rw [hrest]; omega)
    · exact .inr (by omega)

/-! ## Places -/

/-- The piece wherever it stands. -/
def Piece.unplaced : Piece → Piece
  | text alone s => text alone s
  | tag _ body => tag 0 body

theorem joined_map_unplaced (ps : List Piece) :
    joined (ps.map Piece.unplaced) = (joined ps).map Piece.unplaced := by
  fun_induction joined ps with
  | case1 => rfl
  | case2 s rest t more hrest ih =>
    rw [hrest] at ih
    rw [List.map_cons, Piece.unplaced, joined, ih]
    rfl
  | case3 s rest hrest ih =>
    rw [List.map_cons, Piece.unplaced, joined, ih]
    split
    · rename_i heq
      obtain ⟨p, more, hps, hp, -⟩ := List.map_eq_cons_iff.1 heq
      cases p with
      | text alone t =>
        cases hp
        exact absurd hps (hrest _ _)
      | tag => cases hp
    · rfl
  | case4 p rest hp ih =>
    have hunplaced : ∀ s, p.unplaced = .text false s → False := by
      intro s hs
      cases p with
      | text alone t => exact hp s hs
      | tag => cases hs
    rw [List.map_cons, joined.eq_3 _ _ hunplaced, ih]
    rfl

theorem shown_withEmoji_congr {ps qs : List Piece}
    (h : ps.map Piece.unplaced = qs.map Piece.unplaced) :
    (withEmoji ps).flatMap Piece.shown = (withEmoji qs).flatMap Piece.shown := by
  have hshown : ∀ rs : List Piece, (withEmoji rs).flatMap Piece.shown =
      ((joined (rs.map Piece.unplaced)).map Piece.withEmoji).flatMap Piece.shown := by
    intro rs
    have hpiece : Piece.shown ∘ Piece.withEmoji ∘ Piece.unplaced = Piece.shown ∘ Piece.withEmoji := by
      funext p
      cases p <;> rfl
    rw [joined_map_unplaced, withEmoji, List.map_map, List.flatMap_def, List.flatMap_def,
      List.map_map, List.map_map, hpiece]
  rw [hshown, hshown, h]

end Markup

end BindingIndex.Console
