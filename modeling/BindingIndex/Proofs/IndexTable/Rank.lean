import BindingIndex.Proofs.IndexTable.Canonical
import Mathlib.Data.Finset.Card

/-!
# Indices as ranks

The index of a name is its rank, the number of names before it, and one (`indexOf_assign`), so
indices are in the order of names (`indexOf_lt_iff`). Ranks add up when names are added
(`rank_of_subset`): each old name moves up by the number of new ones before it
(`indexOf_of_subset`), and none does if the new ones all come last (`forall_added_eq_empty_iff`).
`Shifts` collects what this says of the tables before and after, and `shifts_of_subset` states it
for names given as units and as strings.
-/

namespace BindingIndex.IndexTable

variable {α : Type}

/-! ## Names in the order of their keys -/

section
variable {key : α → List UInt8} {before : α → α → Prop} (hb : ∀ a b, before a b ↔ key a < key b)
include hb

theorem before_asymm {a b : α} (h : before a b) : ¬ before b a := fun h' =>
  List.lt_asymm ((hb a b).1 h) ((hb b a).1 h')

theorem before_trans {a b c : α} (h : before a b) (h' : before b c) : before a c :=
  (hb a c).2 (List.lt_trans ((hb a b).1 h) ((hb b c).1 h'))

theorem before_or_eq {names : List α} (hk : KeysApart key names) {a b : α} (ha : a ∈ names)
    (hb' : b ∈ names) (h : ¬ before a b) : a = b ∨ before b a := by
  by_cases h' : before b a
  · exact .inr h'
  · refine .inl (hk a ha b hb' (List.le_antisymm ?_ ?_))
    · exact List.not_lt.1 (mt (hb b a).2 h')
    · exact List.not_lt.1 (mt (hb a b).2 h)

end

/-! ## Tables -/

variable [DecidableEq α]

/-- The index under which a table lists a name; 0 if it does not. -/
def indexOf (table : List (Entry α)) (name : α) : Int :=
  match table with
  | [] => 0
  | e :: rest => if e.name = name then e.index else indexOf rest name

theorem mem_indexOf {table : List (Entry α)} {n : α} (h : n ∈ table.map Entry.name) :
    ⟨n, indexOf table n⟩ ∈ table := by
  induction table with
  | nil => simp at h
  | cons e rest ih =>
    unfold indexOf
    split
    · rename_i he
      subst he
      exact .head _
    · rename_i he
      rcases List.mem_cons.1 h with h | h
      · exact absurd h.symm he
      · exact .tail _ (ih h)

/-- The number of names that come before `n`. -/
def rank (before : α → α → Prop) [DecidableRel before] (names : List α) (n : α) : Nat :=
  (names.toFinset.filter (before · n)).card

/-- The new names that come before `n`. -/
def added (before : α → α → Prop) [DecidableRel before] (old new : List α) (n : α) : Finset α :=
  (new.toFinset \ old.toFinset).filter (before · n)

/-- Names only move up: what becomes of the indices of `old` names in the table of `new` ones. -/
structure Shifts (table : List α → List (Entry α)) (before : α → α → Prop) [DecidableRel before]
    (old new : List α) : Prop where
  listed : ∀ n ∈ old,
    ⟨n, indexOf (table old) n⟩ ∈ table old ∧ ⟨n, indexOf (table new) n⟩ ∈ table new
  shift : ∀ n ∈ old,
    indexOf (table new) n - indexOf (table old) n = (added before old new n).card
  order : ∀ m ∈ old, ∀ n ∈ old,
    (indexOf (table new) m < indexOf (table new) n ↔ indexOf (table old) m < indexOf (table old) n)
  fixed_iff : (∀ n ∈ old, indexOf (table new) n = indexOf (table old) n) ↔
    ∀ m ∈ new, m ∉ old → ∀ n ∈ old, before n m

theorem rank_of_subset {before : α → α → Prop} [DecidableRel before] {old new : List α}
    (h : old ⊆ new) (n : α) :
    rank before new n = rank before old n + (added before old new n).card := by
  have hsub : old.toFinset ⊆ new.toFinset := fun a ha => by
    rw [List.mem_toFinset] at ha ⊢
    exact h ha
  unfold rank added
  rw [← Finset.card_union_of_disjoint, ← Finset.filter_union, Finset.union_sdiff_of_subset hsub]
  exact Finset.disjoint_filter_filter Finset.disjoint_sdiff

theorem added_eq_empty_iff {before : α → α → Prop} [DecidableRel before] {old new : List α}
    {n : α} : added before old new n = ∅ ↔ ∀ m ∈ new, m ∉ old → ¬ before m n := by
  simp [added, Finset.filter_eq_empty_iff]

section
variable {key : α → List UInt8} {before : α → α → Prop} [DecidableRel before]
  (hb : ∀ a b, before a b ↔ key a < key b)
include hb

theorem indexOf_number {xs : List α} (hx : xs.Pairwise before) {n : α} (hn : n ∈ xs) (start : Int) :
    indexOf (number start xs) n = start + (xs.filter (before · n)).length := by
  induction xs generalizing start with
  | nil => simp at hn
  | cons x xs ih =>
    obtain ⟨hlt, hxs⟩ := List.pairwise_cons.1 hx
    unfold number indexOf
    by_cases hxn : x = n
    · subst hxn
      have hself : ¬ before x x := fun h => before_asymm hb h h
      have hnone : xs.filter (before · x) = [] := by
        rw [List.filter_eq_nil_iff]
        intro y hy
        simpa using before_asymm hb (hlt y hy)
      simp [hself, hnone]
    · have hmem : n ∈ xs := (List.mem_cons.1 hn).resolve_left (Ne.symm hxn)
      simp only [hxn, if_false, ih hxs hmem, List.filter_cons, hlt n hmem, decide_true, if_true,
        List.length_cons]
      omega

variable {names : List α} (hk : KeysApart key names)
include hk

/-- **The index of a name** is the number of names before it, and one. -/
theorem indexOf_assign {n : α} (hn : n ∈ names) :
    indexOf (assign key names) n = rank before names n + 1 := by
  have hasc : (ordered key names).Pairwise before :=
    (pairwise_ordered hk).imp fun h => (hb _ _).2 h
  have hnodup : (ordered key names).Nodup := by
    refine hasc.imp ?_
    rintro a _ h rfl
    exact before_asymm hb h h
  have hset : (ordered key names).toFinset = names.toFinset := by
    ext m
    rw [List.mem_toFinset, List.mem_toFinset, mem_ordered]
  have hcount : ((ordered key names).filter (before · n)).length = rank before names n := by
    rw [← List.toFinset_card_of_nodup (hnodup.filter _), List.toFinset_filter, hset]
    simp [rank]
  rw [assign, indexOf_number hb hasc (mem_ordered.2 hn), hcount, Int.add_comm]

theorem rank_lt_iff {m n : α} (hm : m ∈ names) (hn : n ∈ names) :
    rank before names m < rank before names n ↔ before m n := by
  constructor
  · intro h
    by_contra hmn
    -- otherwise every name before `n` is one before `m`
    refine absurd (Finset.card_le_card fun a ha => ?_) (Nat.not_le.2 h)
    rw [Finset.mem_filter] at ha ⊢
    rcases before_or_eq hb hk hm hn hmn with rfl | hnm
    · exact ha
    · exact ⟨ha.1, before_trans hb ha.2 hnm⟩
  · intro hmn
    -- `m` itself is before `n` and not before `m`
    refine Finset.card_lt_card ((Finset.ssubset_iff_of_subset fun a ha => ?_).2 ⟨m, ?_, ?_⟩)
    · rw [Finset.mem_filter] at ha ⊢
      exact ⟨ha.1, before_trans hb ha.2 hmn⟩
    · simpa using ⟨hm, hmn⟩
    · simpa using fun _ h => before_asymm hb h h

theorem indexOf_lt_iff {m n : α} (hm : m ∈ names) (hn : n ∈ names) :
    indexOf (assign key names) m < indexOf (assign key names) n ↔ before m n := by
  rw [indexOf_assign hb hk hm, indexOf_assign hb hk hn, ← rank_lt_iff hb hk hm hn]
  omega

/-- **An old name moves up** by the new names before it. -/
theorem indexOf_of_subset {old : List α} (h : old ⊆ names) {n : α} (hn : n ∈ old) :
    indexOf (assign key names) n =
      indexOf (assign key old) n + (added before old names n).card := by
  rw [indexOf_assign hb hk (h hn), indexOf_assign hb (hk.subset h) hn, rank_of_subset h]
  omega

theorem forall_added_eq_empty_iff {old : List α} (h : old ⊆ names) :
    (∀ n ∈ old, added before old names n = ∅) ↔ ∀ m ∈ names, m ∉ old → ∀ n ∈ old, before n m := by
  constructor
  · intro hnone m hm hmo n hn
    have hmn : ¬ before m n := added_eq_empty_iff.1 (hnone n hn) m hm hmo
    refine (before_or_eq hb hk hm (h hn) hmn).resolve_left ?_
    rintro rfl
    exact hmo hn
  · intro hafter n hn
    exact added_eq_empty_iff.2 fun m hm hmo => before_asymm hb (hafter m hm hmo n hn)

theorem shifts_assign {old : List α} (h : old ⊆ names) :
    Shifts (assign key) before old names := by
  constructor
  · intro n hn
    exact ⟨mem_indexOf (((isTable_assign (hk.subset h)).mem_iff n).2 hn),
      mem_indexOf (((isTable_assign hk).mem_iff n).2 (h hn))⟩
  · intro n hn
    rw [indexOf_of_subset hb hk h hn]
    omega
  · intro m hm n hn
    rw [indexOf_lt_iff hb hk (h hm) (h hn), indexOf_lt_iff hb (hk.subset h) hm hn]
  · rw [← forall_added_eq_empty_iff hb hk h]
    refine forall₂_congr fun n hn => ?_
    rw [indexOf_of_subset hb hk h hn, ← Finset.card_eq_zero]
    omega

end

/-- **Added names only shift indices.** In the table of more names, each old one is listed under its
index plus the number of new names before it; so the old names keep their order, and all their
indices if and only if every new name comes after every old one. -/
theorem shifts_of_subset :
    (∀ old new : List (List UInt16), old ⊆ new → Shifts ofUnits Text.Precedes old new) ∧
    ∀ old new : List String, old ⊆ new →
      Shifts ofNames (fun a b => Text.Precedes (Text.unitsOf a) (Text.unitsOf b))
        (old.map Text.ofString) (new.map Text.ofString) := by
  have hunits : ∀ us vs, Text.Precedes us vs ↔ Text.unitsKey us < Text.unitsKey vs := fun us vs =>
    Text.unitsKey_lt_iff_precedes.symm
  have hnames : ∀ s t : Text, Text.Precedes (Text.unitsOf s) (Text.unitsOf t) ↔
      Text.sortKey s < Text.sortKey t := fun s t => Text.sortKey_lt_iff.symm
  constructor
  · intro old new h
    exact shifts_assign hunits (fun _ _ _ _ hk => Text.unitsKey_injective hk) h
  · intro old new h
    exact shifts_assign hnames (keysApart_ofString new) (List.map_subset _ h)

/-- A full-width letter moves up for a name beyond U+FFFF too. -/
theorem shifts_of_subset_supplementary :
    ["Ａ", "a"] ⊆ ["b", "𝐀", "a", "Ａ"] ∧
    indexOf (ofNames ["b", "𝐀", "a", "Ａ"]) "Ａ" - indexOf (ofNames ["Ａ", "a"]) "Ａ" = 2 :=
  have h : ["Ａ", "a"] ⊆ ["b", "𝐀", "a", "Ａ"] := by decide
  ⟨h, ((shifts_of_subset.2 _ _ h).shift "Ａ" (by decide)).trans (by decide)⟩

end BindingIndex.IndexTable
