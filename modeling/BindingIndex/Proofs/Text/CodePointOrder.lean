import BindingIndex.Proofs.Text.UnitOrder

/-!
# The order of units against the order of code points

Names are ordered by their units and not by their code points. Surrogates stand below U+E000, so a
character beyond U+FFFF comes before one from U+E000 to U+FFFF (`Swaps`), although its code point is
larger; any other two characters are in the same order either way.

* `units_append_lt`: `UnitsBefore`, the order of single characters by their units, decides whatever
  follows them.
* `sortKey_lt_iff_lex`: so the order of sort keys is the lexicographic one over `UnitsBefore`, as
  that of strings is the one over code points.
* `sortKey_lt_iff_firstDiffer`: both read off the first difference of two strings, and the strings
  on which they part.
-/

namespace BindingIndex.Text

/-- One character is beyond U+FFFF, the other between the surrogates and there. -/
def Swaps (a b : Char) : Prop :=
  (0xE000 ≤ a.toNat ∧ a.toNat ≤ 0xFFFF) ∧ 0x10000 ≤ b.toNat ∨
    (0xE000 ≤ b.toNat ∧ b.toNat ≤ 0xFFFF) ∧ 0x10000 ≤ a.toNat

instance (a b : Char) : Decidable (Swaps a b) := inferInstanceAs (Decidable (_ ∨ _))

def UnitsBefore (a b : Char) : Prop := if Swaps a b then b < a else a < b

theorem unitsBefore_iff {a b : Char} :
    UnitsBefore a b ↔ Swaps a b ∧ b < a ∨ ¬ Swaps a b ∧ a < b := by
  unfold UnitsBefore
  split <;> simp [*]

theorem unitsBefore_irrefl (a : Char) : ¬ UnitsBefore a a := by
  simp [unitsBefore_iff]

theorem char_lt_iff {a b : Char} : a < b ↔ a.toNat < b.toNat := Iff.rfl

theorem units_append_lt (a b : Char) (xs ys : List UInt16) :
    units a ++ xs < units b ++ ys ↔ UnitsBefore a b ∨ a = b ∧ xs < ys := by
  rw [unitsBefore_iff, char_lt_iff, char_lt_iff, ← Char.toNat_inj, Swaps]
  rcases units_cases a with ⟨u, ha, hu, _⟩ | ⟨hi, lo, ha, hu, _, _⟩ <;>
    rcases units_cases b with ⟨v, hb, hv, _⟩ | ⟨hi', lo', hb, hv, _, _⟩ <;>
    rw [ha, hb] <;>
    simp only [List.cons_append, List.nil_append, List.cons_lt_cons_iff, UInt16.lt_iff_toNat_lt,
      ← UInt16.toNat_inj]
  · by_cases h : xs < ys <;> simp only [h, and_true, and_false, or_false] <;> omega
  -- a surrogate is above every single unit below U+D800 and below every one from U+E000 on
  · omega
  · omega
  · by_cases h : xs < ys <;> simp only [h, and_true, and_false, or_false] <;> omega

/-- **Sort keys compare character by character.** -/
theorem sortKey_lt_iff_lex {s t : String} :
    sortKey s < sortKey t ↔ List.Lex UnitsBefore s.toList t.toList := by
  have hne : ∀ c, units c ≠ [] := fun c => List.ne_nil_of_length_pos (units_length_pos c)
  rw [sortKey, sortKey, unitsKey_lt_iff, unitsOf_ofString, unitsOf_ofString]
  exact flatMap_lt_iff hne units_append_lt

/-! ## First differences -/

/-- `a` stands in `s` and `b` in `t` at the first position at which these differ. -/
def FirstDiffer (s t : String) (a b : Char) : Prop :=
  a ≠ b ∧ ∃ common s' t', s.toList = common ++ a :: s' ∧ t.toList = common ++ b :: t'

theorem FirstDiffer.symm {s t : String} {a b : Char} (h : FirstDiffer s t a b) :
    FirstDiffer t s b a := by
  obtain ⟨hne, common, s', t', hs, ht⟩ := h
  exact ⟨hne.symm, common, t', s', ht, hs⟩

section
variable {r : Char → Char → Prop} (hr : ∀ a, ¬ r a a) {s t : String} {a b : Char}
include hr

theorem lex_iff_firstDiffer : List.Lex r s.toList t.toList ↔
    (∃ c rest, t.toList = s.toList ++ c :: rest) ∨ ∃ a b, FirstDiffer s t a b ∧ r a b := by
  rw [lex_iff]
  constructor
  · rintro ⟨common, ⟨rfl, h⟩ | ⟨a, s', b, t', hs, ht, hab⟩⟩
    · exact .inl h
    · have hne : a ≠ b := by
        rintro rfl
        exact hr a hab
      exact .inr ⟨a, b, ⟨hne, common, s', t', hs, ht⟩, hab⟩
  · rintro (h | ⟨a, b, ⟨-, common, s', t', hs, ht⟩, hab⟩)
    · exact ⟨_, .inl ⟨rfl, h⟩⟩
    · exact ⟨common, .inr ⟨a, s', b, t', hs, ht, hab⟩⟩

theorem FirstDiffer.lex (h : FirstDiffer s t a b) : List.Lex r s.toList t.toList ↔ r a b := by
  obtain ⟨hne, common, s', t', hs, ht⟩ := h
  rw [hs, ht]
  clear hs ht
  induction common with
  | nil => simp [List.cons_lex_cons_iff, hne]
  | cons c common ih => simpa [List.cons_lex_cons_iff, hr c] using ih

end

/-- The strings first differ at characters that the orders of units and of code points take the
other way round. -/
def Parts (s t : String) : Prop := ∃ a b, FirstDiffer s t a b ∧ Swaps a b

theorem lt_iff_lex {s t : String} : s < t ↔ List.Lex (· < ·) s.toList t.toList := String.lt_iff

theorem sortKey_lt_iff_parts {s t : String} :
    sortKey s < sortKey t ↔ Parts s t ∧ t < s ∨ ¬ Parts s t ∧ s < t := by
  by_cases h : Parts s t
  · obtain ⟨a, b, hd, hs⟩ := id h
    have hkey : UnitsBefore a b ↔ b < a := by simp [unitsBefore_iff, hs]
    rw [sortKey_lt_iff_lex, hd.lex unitsBefore_irrefl, hkey, lt_iff_lex, hd.symm.lex Char.lt_irrefl]
    simp [h]
  · have hsame : ∀ a b, FirstDiffer s t a b → (UnitsBefore a b ↔ a < b) := by
      intro a b hd
      have hs : ¬ Swaps a b := fun hs => h ⟨a, b, hd, hs⟩
      simp [unitsBefore_iff, hs]
    have hlex : sortKey s < sortKey t ↔ s < t := by
      rw [sortKey_lt_iff_lex, lt_iff_lex, lex_iff_firstDiffer unitsBefore_irrefl,
        lex_iff_firstDiffer Char.lt_irrefl]
      refine or_congr_right (exists_congr fun a => exists_congr fun b => ?_)
      exact and_congr_right (hsame a b)
    simp [h, hlex]

/-- **The order of sort keys.** Strings compare by code points as their first difference does, and a
proper start comes first. Sort keys compare the same way, but for a character beyond U+FFFF that
meets one from U+E000 to U+FFFF: there it comes first, and the order of the strings is the other way
round. Strings with one key are equal, so distinct ones never tie. -/
theorem sortKey_lt_iff_firstDiffer (s t : String) :
    (s < t ↔ (∃ c rest, t.toList = s.toList ++ c :: rest) ∨ ∃ a b, FirstDiffer s t a b ∧ a < b) ∧
    (sortKey s < sortKey t ↔ (∃ c rest, t.toList = s.toList ++ c :: rest) ∨
      ∃ a b, FirstDiffer s t a b ∧ if Swaps a b then b < a else a < b) ∧
    (sortKey s < sortKey t ↔ Parts s t ∧ t < s ∨ ¬ Parts s t ∧ s < t) ∧
    (sortKey s = sortKey t ↔ s = t) ∧
    (sortKey s < sortKey t ∨ s = t ∨ sortKey t < sortKey s) := by
  refine ⟨lt_iff_lex.trans (lex_iff_firstDiffer Char.lt_irrefl),
    sortKey_lt_iff_lex.trans (lex_iff_firstDiffer unitsBefore_irrefl), sortKey_lt_iff_parts,
    sortKey_inj.trans unitsOf_ofString_injective.eq_iff, ?_⟩
  by_cases hst : sortKey s < sortKey t
  · exact .inl hst
  by_cases hts : sortKey t < sortKey s
  · exact .inr (.inr hts)
  · exact .inr (.inl (unitsOf_ofString_injective
      (sortKey_inj.1 (List.le_antisymm (List.not_lt.1 hts) (List.not_lt.1 hst)))))

/-- A letter beyond U+FFFF against a full-width one. -/
example : sortKey "𝐀" < sortKey "Ａ" ∧ "Ａ" < "𝐀" := by decide

end BindingIndex.Text
