import BindingIndex.Text.Utf16

/-!
# The order of code units

`Precedes us vs` is the order of names: the first difference between two unit sequences decides,
and a proper start of a sequence comes before it. Comparing big-endian keys byte by byte is that
order (`unitsKey_lt_iff`), since a unit's high byte stands first.

Both are lexicographic orders, and codes that compare as what they encode keep such an order
(`flatMap_lt_iff`); `lex_iff` says what it means for two lists.

Keys lose nothing: unit sequences are read back from their bytes (`unitsKey_injective`), and
characters from their units, because the first unit of a surrogate pair is none of a single
character (`units_cases`, `unitsOf_ofString_injective`). So two strings with one sort key are equal.
-/

namespace BindingIndex.Text

variable {α β : Type}

/-! ## Lexicographic orders -/

/-- One list goes on after all of the other, or the first elements in which they differ decide. -/
theorem lex_iff {r : α → α → Prop} {xs ys : List α} :
    List.Lex r xs ys ↔ ∃ common, (xs = common ∧ ∃ y rest, ys = common ++ y :: rest) ∨
      ∃ x xs' y ys', xs = common ++ x :: xs' ∧ ys = common ++ y :: ys' ∧ r x y := by
  constructor
  · intro h
    induction h with
    | @nil y rest => exact ⟨[], .inl ⟨rfl, y, rest, rfl⟩⟩
    | @rel x xs' y ys' h => exact ⟨[], .inr ⟨x, xs', y, ys', rfl, rfl, h⟩⟩
    | @cons z _ _ _ ih =>
      obtain ⟨common, ⟨rfl, y, rest, rfl⟩ | ⟨x, xs', y, ys', rfl, rfl, h⟩⟩ := ih
      · exact ⟨z :: _, .inl ⟨rfl, y, rest, rfl⟩⟩
      · exact ⟨z :: common, .inr ⟨x, xs', y, ys', rfl, rfl, h⟩⟩
  · rintro ⟨common, h⟩
    induction common generalizing xs ys with
    | nil =>
      rcases h with ⟨rfl, y, rest, rfl⟩ | ⟨x, xs', y, ys', rfl, rfl, h⟩
      · exact .nil
      · exact .rel h
    | cons z common ih =>
      rcases h with ⟨rfl, y, rest, rfl⟩ | ⟨x, xs', y, ys', rfl, rfl, h⟩
      · exact .cons (ih (.inl ⟨rfl, y, rest, rfl⟩))
      · exact .cons (ih (.inr ⟨x, xs', y, ys', rfl, rfl, h⟩))

/-- Codes that compare as the elements do, whatever follows them, make lists of codes that compare
as the lists do. -/
theorem flatMap_lt_iff [LT β] {code : α → List β} {r : α → α → Prop} (hne : ∀ a, code a ≠ [])
    (hcode : ∀ a b xs ys, code a ++ xs < code b ++ ys ↔ r a b ∨ a = b ∧ xs < ys) {as bs : List α} :
    as.flatMap code < bs.flatMap code ↔ List.Lex r as bs := by
  induction as generalizing bs with
  | nil =>
    cases bs with
    | nil => simp
    | cons b bs =>
      obtain ⟨c, cs, hc⟩ := List.exists_cons_of_ne_nil (hne b)
      simp [hc]
  | cons a as ih =>
    cases bs with
    | nil => simp
    | cons b bs => rw [List.flatMap_cons, List.flatMap_cons, hcode, ih, List.cons_lex_cons_iff]

/-! ## The order of names -/

/-- `us` comes before `vs`: `vs` goes on after all of `us`, or the first unit in which they differ
is smaller in `us`. -/
def Precedes (us vs : List UInt16) : Prop :=
  ∃ common, (us = common ∧ ∃ v rest, vs = common ++ v :: rest) ∨
    ∃ u us' v vs', us = common ++ u :: us' ∧ vs = common ++ v :: vs' ∧ u < v

theorem precedes_iff_lt {us vs : List UInt16} : Precedes us vs ↔ us < vs := lex_iff.symm

instance (us vs : List UInt16) : Decidable (Precedes us vs) :=
  decidable_of_iff (us < vs) precedes_iff_lt.symm

/-! ## Keys of unit sequences -/

theorem bigEndian_append_lt (u v : UInt16) (xs ys : List UInt8) :
    bigEndian u ++ xs < bigEndian v ++ ys ↔ u < v ∨ u = v ∧ xs < ys := by
  have hu := u.toNat_lt
  have hv := v.toNat_lt
  simp only [bigEndian, List.cons_append, List.nil_append, List.cons_lt_cons_iff,
    UInt8.lt_iff_toNat_lt, UInt16.lt_iff_toNat_lt, ← UInt8.toNat_inj, ← UInt16.toNat_inj,
    UInt8.toNat_ofNat']
  constructor
  · rintro (h | ⟨h, h' | ⟨h', hxy⟩⟩)
    · exact .inl (by omega)
    · exact .inl (by omega)
    · exact .inr ⟨by omega, hxy⟩
  · rintro (h | ⟨h, hxy⟩)
    · rcases Nat.lt_or_ge (u.toNat / 256) (v.toNat / 256) with hhi | hhi
      · exact .inl (by omega)
      · exact .inr ⟨by omega, .inl (by omega)⟩
    · exact .inr ⟨by omega, .inr ⟨by omega, hxy⟩⟩

theorem unitsKey_lt_iff {us vs : List UInt16} : unitsKey us < unitsKey vs ↔ us < vs :=
  flatMap_lt_iff (fun _ => List.cons_ne_nil _ _) bigEndian_append_lt

theorem unitsKey_lt_iff_precedes {us vs : List UInt16} :
    unitsKey us < unitsKey vs ↔ Precedes us vs := unitsKey_lt_iff.trans precedes_iff_lt.symm

theorem unitsKey_injective : Function.Injective unitsKey := by
  intro us vs h
  have hlt : ¬ us < vs := fun hlt => List.lt_irrefl _ (h ▸ unitsKey_lt_iff.2 hlt)
  have hgt : ¬ vs < us := fun hgt => List.lt_irrefl _ (h ▸ unitsKey_lt_iff.2 hgt)
  exact List.le_antisymm (List.not_lt.1 hgt) (List.not_lt.1 hlt)

/-! ## Units of characters -/

theorem units_cases (c : Char) :
    (∃ u, units c = [u] ∧ u.toNat = c.toNat ∧
      (c.toNat < 0xD800 ∨ 0xDFFF < c.toNat ∧ c.toNat < 0x10000)) ∨
    ∃ hi lo, units c = [hi, lo] ∧
      c.toNat = 0x10000 + (hi.toNat - 0xD800) * 0x400 + (lo.toNat - 0xDC00) ∧
      (0xD800 ≤ hi.toNat ∧ hi.toNat < 0xDC00) ∧ 0xDC00 ≤ lo.toNat ∧ lo.toNat < 0xE000 := by
  have hc : c.toNat < 0xD800 ∨ 0xDFFF < c.toNat ∧ c.toNat < 0x110000 := c.valid
  unfold units
  split
  · exact .inl ⟨_, rfl, by rw [UInt16.toNat_ofNat']; omega, by omega⟩
  · refine .inr ⟨_, _, rfl, ?_⟩
    simp only [UInt16.toNat_ofNat']
    omega

/-- The units of a character end where the next one's begin. -/
theorem units_append_inj {c d : Char} {xs ys : List UInt16} (h : units c ++ xs = units d ++ ys) :
    c = d ∧ xs = ys := by
  rw [← Char.toNat_inj]
  rcases units_cases c with ⟨u, hc, hu, _⟩ | ⟨hi, lo, hc, hu, _, _⟩ <;>
    rcases units_cases d with ⟨v, hd, hv, _⟩ | ⟨hi', lo', hd, hv, _, _⟩ <;>
    rw [hc, hd] at h <;>
    simp only [List.cons_append, List.nil_append, List.cons.injEq, ← UInt16.toNat_inj] at h
  · exact ⟨by omega, h.2⟩
  -- a single unit is no surrogate
  · omega
  · omega
  · exact ⟨by omega, h.2.2⟩

theorem units_append_ne_nil (c : Char) (xs : List UInt16) : units c ++ xs ≠ [] :=
  List.append_ne_nil_of_left_ne_nil (List.ne_nil_of_length_pos (units_length_pos c)) xs

theorem flatMap_units_inj : ∀ {s t : List Char}, s.flatMap units = t.flatMap units → s = t
  | [], [], _ => rfl
  | [], d :: _, h => absurd h.symm (units_append_ne_nil d _)
  | c :: _, [], h => absurd h (units_append_ne_nil c _)
  | c :: s, d :: t, h => by
    obtain ⟨rfl, hrest⟩ := units_append_inj h
    rw [flatMap_units_inj hrest]

theorem sortKey_inj {s t : Text} : sortKey s = sortKey t ↔ unitsOf s = unitsOf t :=
  unitsKey_injective.eq_iff

theorem unitsOf_ofString_injective : Function.Injective fun s : String => unitsOf s := by
  intro s t h
  simp only [unitsOf_ofString] at h
  exact String.toList_injective (flatMap_units_inj h)

theorem sortKey_lt_iff {s t : Text} :
    sortKey s < sortKey t ↔ Precedes (unitsOf s) (unitsOf t) := unitsKey_lt_iff_precedes

end BindingIndex.Text
