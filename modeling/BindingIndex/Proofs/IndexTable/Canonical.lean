import BindingIndex.IndexTable
import BindingIndex.Proofs.Text.UnitOrder
import Mathlib.Data.List.Sort

/-!
# The table of a set of names

`IsTable before names table`: the table lists every name of `names` once and no other, its names
ascend by `before`, and the entry at position `i` has index `i + 1`.

* An insertion keeps a list ascending by its keys and adds its name (`pairwise_insert`,
  `mem_insert`, for names of different keys); so `ordered` is the ascending enumeration of the set
  of names (`pairwise_ordered`, `mem_ordered`), and the only one (`ordered_unique`).
* `IsTable.eq_number`: a table is fixed by its ascending names, so there is one for each set.
* `assign_map`: names of the same keys have the same indices, so strings have those of their unit
  sequences.
* `ofUnits_canonical`: `ofUnits` gives the one table of each set of names.
-/

namespace BindingIndex.IndexTable

variable {α β : Type} [DecidableEq α] [DecidableEq β]

/-- The table numbers the set of names in ascending order. -/
structure IsTable (before : α → α → Prop) (names : List α) (table : List (Entry α)) : Prop where
  nodup : (table.map Entry.name).Nodup
  mem_iff : ∀ n, n ∈ table.map Entry.name ↔ n ∈ names
  ascending : (table.map Entry.name).Pairwise before
  numbered : ∀ (i : Nat) (e : Entry α), table[i]? = some e → e.index = (i : Int) + 1

/-! ## Ascending lists -/

/-- Names of one key are one name. -/
def KeysApart (key : α → List UInt8) (names : List α) : Prop :=
  ∀ a ∈ names, ∀ b ∈ names, key a = key b → a = b

omit [DecidableEq α] in
theorem KeysApart.subset {key : α → List UInt8} {names names' : List α} (h : KeysApart key names)
    (hs : names' ⊆ names) : KeysApart key names' :=
  fun a ha b hb => h a (hs ha) b (hs hb)

section
variable {key : α → List UInt8}

theorem mem_insert {n name : α} {xs : List α} :
    n ∈ insert key name xs ↔ n = name ∨ n ∈ xs := by
  induction xs with
  | nil => simp [insert]
  | cons x xs ih =>
    unfold insert
    split
    · simp
    · split
      · subst x
        simp
      · rw [List.mem_cons, ih, List.mem_cons]
        exact or_left_comm

theorem mem_ordered {n : α} {names : List α} : n ∈ ordered key names ↔ n ∈ names := by
  unfold ordered
  induction names with
  | nil => simp
  | cons m names ih => rw [List.foldr_cons, mem_insert, ih, List.mem_cons]

theorem length_insert_le (key : α → List UInt8) (name : α) (xs : List α) :
    (insert key name xs).length ≤ xs.length + 1 := by
  induction xs with
  | nil => rfl
  | cons x xs ih =>
    unfold insert
    split
    · rfl
    · split
      · exact Nat.le_succ _
      · exact Nat.succ_le_succ ih

theorem length_ordered_le (key : α → List UInt8) (names : List α) :
    (ordered key names).length ≤ names.length := by
  unfold ordered
  induction names with
  | nil => rfl
  | cons m names ih => exact (length_insert_le key m _).trans (Nat.succ_le_succ ih)

theorem pairwise_insert {name : α} {xs : List α} (hk : KeysApart key (name :: xs))
    (h : xs.Pairwise fun a b => key a < key b) :
    (insert key name xs).Pairwise fun a b => key a < key b := by
  induction xs with
  | nil => exact List.pairwise_singleton _ _
  | cons x xs ih =>
    obtain ⟨hx, hxs⟩ := List.pairwise_cons.1 h
    unfold insert
    split
    · rename_i hlt
      refine List.pairwise_cons.2 ⟨fun b hb => ?_, h⟩
      rcases List.mem_cons.1 hb with rfl | hb
      · exact hlt
      · exact List.lt_trans hlt (hx b hb)
    · split
      · exact h
      · rename_i hle hne
        have hgt : key x < key name := by
          refine Decidable.not_not.1 fun hge => hne (hk _ (.head _) _ (.tail _ (.head _)) ?_)
          exact List.le_antisymm (List.not_lt.1 hge) (List.not_lt.1 hle)
        refine List.pairwise_cons.2 ⟨fun b hb => ?_, ih (hk.subset ?_) hxs⟩
        · rcases mem_insert.1 hb with rfl | hb
          · exact hgt
          · exact hx b hb
        · exact List.cons_subset_cons _ (List.subset_cons_self _ _)

theorem pairwise_ordered {names : List α} (hk : KeysApart key names) :
    (ordered key names).Pairwise fun a b => key a < key b := by
  unfold ordered
  induction names with
  | nil => exact .nil
  | cons m names ih =>
    refine pairwise_insert (hk.subset ?_) (ih (hk.subset (List.subset_cons_self _ _)))
    exact List.cons_subset_cons _ fun n hn => mem_ordered.1 hn

omit [DecidableEq α] in
theorem eq_of_ascending {xs ys : List α} (hx : xs.Pairwise fun a b => key a < key b)
    (hy : ys.Pairwise fun a b => key a < key b) (h : ∀ n, n ∈ xs ↔ n ∈ ys) : xs = ys :=
  have : Std.Irrefl fun a b : α => key a < key b := ⟨fun _ => List.lt_irrefl _⟩
  have : Std.Antisymm fun a b : α => key a < key b :=
    ⟨fun _ _ hab hba => absurd (List.lt_trans hab hba) (List.lt_irrefl _)⟩
  hx.eq_of_mem_iff hy h

theorem ordered_unique {names xs : List α} (hk : KeysApart key names)
    (hx : xs.Pairwise fun a b => key a < key b) (h : ∀ n, n ∈ xs ↔ n ∈ names) :
    xs = ordered key names :=
  eq_of_ascending hx (pairwise_ordered hk) fun n => (h n).trans mem_ordered.symm

/-- **The set of names decides.** -/
theorem assign_eq_iff {names names' : List α} (hk : KeysApart key names) :
    assign key names = assign key names' ↔ ∀ n, n ∈ names ↔ n ∈ names' := by
  constructor
  · intro h n
    have ho : ordered key names = ordered key names' := by
      simpa [assign] using congrArg (List.map Entry.name) h
    rw [← mem_ordered, ho, mem_ordered]
  · intro h
    unfold assign
    rw [ordered_unique (hk.subset fun n hn => (h n).2 hn) (pairwise_ordered hk)
      fun n => mem_ordered.trans (h n)]

end

/-! ## Numbering -/

omit [DecidableEq α] in
theorem getElem?_number (start : Int) (names : List α) (i : Nat) :
    (number start names)[i]? = names[i]?.map fun n => ⟨n, start + i⟩ := by
  induction names generalizing start i with
  | nil => rfl
  | cons n ns ih =>
    cases i with
    | zero => simp [number]
    | succ i =>
      simp only [number, List.getElem?_cons_succ, ih]
      congr
      funext m
      congr 1
      omega

omit [DecidableEq α] in
theorem IsTable.eq_number {before : α → α → Prop} {names : List α} {table : List (Entry α)}
    (h : IsTable before names table) : table = number 1 (table.map Entry.name) := by
  apply List.ext_getElem?
  intro i
  rw [getElem?_number, List.getElem?_map]
  cases hi : table[i]? with
  | none => rfl
  | some e =>
    obtain ⟨name, index⟩ := e
    have hidx : index = (i : Int) + 1 := h.numbered i _ hi
    simp only [Option.map_some, Option.some.injEq, Entry.mk.injEq, true_and, hidx]
    omega

theorem isTable_assign {key : α → List UInt8} {names : List α} (hk : KeysApart key names) :
    IsTable (fun a b => key a < key b) names (assign key names) := by
  have hasc := pairwise_ordered hk
  constructor
  · rw [assign, map_name_number]
    refine List.nodup_iff_pairwise_ne.2 (hasc.imp ?_)
    rintro a b hlt rfl
    exact List.lt_irrefl _ hlt
  · intro n
    rw [assign, map_name_number, mem_ordered]
  · rw [assign, map_name_number]
    exact hasc
  · intro i e he
    rw [assign, getElem?_number] at he
    obtain ⟨n, -, rfl⟩ := Option.map_eq_some_iff.1 he
    exact Int.add_comm 1 i

theorem IsTable.eq_assign {key : α → List UInt8} {names : List α} (hk : KeysApart key names)
    {table : List (Entry α)} (h : IsTable (fun a b => key a < key b) names table) :
    table = assign key names := by
  rw [h.eq_number, ordered_unique hk h.ascending h.mem_iff]
  rfl

/-! ## Names with one key -/

theorem insert_map {f : α → β} {key : α → List UInt8} {key' : β → List UInt8}
    (hi : Function.Injective f) (hf : ∀ a, key' (f a) = key a) (name : α) (xs : List α) :
    (insert key name xs).map f = insert key' (f name) (xs.map f) := by
  induction xs with
  | nil => rfl
  | cons x xs ih =>
    simp only [insert, List.map_cons, hf, hi.eq_iff]
    split
    · rfl
    · split
      · rfl
      · rw [List.map_cons, ih]

/-- Names that are replaced by others of the same keys keep their indices. -/
theorem assign_map {f : α → β} {key : α → List UInt8} {key' : β → List UInt8}
    (hi : Function.Injective f) (hf : ∀ a, key' (f a) = key a) (names : List α) :
    assign key' (names.map f) = (assign key names).map fun e => ⟨f e.name, e.index⟩ := by
  have hnum : ∀ (start : Int) (ns : List α),
      number start (ns.map f) = (number start ns).map fun e => ⟨f e.name, e.index⟩ := by
    intro start ns
    induction ns generalizing start with
    | nil => rfl
    | cons n ns ih => simp [number, ih]
  have hord : ordered key' (names.map f) = (ordered key names).map f := by
    unfold ordered
    induction names with
    | nil => rfl
    | cons n ns ih => rw [List.map_cons, List.foldr_cons, List.foldr_cons, ih, insert_map hi hf]
  rw [assign, hord, hnum, assign]

theorem isTable_iff_ofNames {names : List Text} (hk : KeysApart Text.sortKey names)
    {table : List (Entry Text)} :
    IsTable (fun a b => Text.Precedes (Text.unitsOf a) (Text.unitsOf b)) names table ↔
      table = ofNames names := by
  have hbefore : (fun a b : Text => Text.Precedes (Text.unitsOf a) (Text.unitsOf b)) =
      fun a b => Text.sortKey a < Text.sortKey b := by
    funext a b
    exact propext Text.sortKey_lt_iff.symm
  rw [hbefore]
  constructor
  · exact IsTable.eq_assign hk
  · rintro rfl
    exact isTable_assign hk

theorem isTable_ofNames {names : List Text} (hk : KeysApart Text.sortKey names) :
    IsTable (fun a b => Text.Precedes (Text.unitsOf a) (Text.unitsOf b)) names (ofNames names) :=
  (isTable_iff_ofNames hk).2 rfl

theorem keysApart_of_isUnicode {names : List Text} (h : ∀ n ∈ names, n.IsUnicode) :
    KeysApart Text.sortKey names := by
  intro a ha b hb hkey
  obtain ⟨s, rfl⟩ := Text.isUnicode_iff_exists.1 (h a ha)
  obtain ⟨t, rfl⟩ := Text.isUnicode_iff_exists.1 (h b hb)
  exact congrArg Text.ofString (Text.unitsOf_ofString_injective (Text.sortKey_inj.1 hkey))

theorem keysApart_ofString (ss : List String) : KeysApart Text.sortKey (ss.map Text.ofString) :=
  keysApart_of_isUnicode fun _ hn => by
    obtain ⟨s, -, rfl⟩ := List.mem_map.1 hn
    exact Text.isUnicode_ofString s

/-- **The table of a set of names.** The table of a list of unit sequences is the one table that
lists its names once each in ascending order of their units, numbered from 1; two lists have the
same table if and only if they have the same set of names. A string counts as its sequence of
units. -/
theorem ofUnits_canonical (names : List (List UInt16)) :
    (∀ table, IsTable Text.Precedes names table ↔ table = ofUnits names) ∧
    (∀ names', ofUnits names = ofUnits names' ↔ ∀ n, n ∈ names ↔ n ∈ names') ∧
    ∀ ss : List String, ofUnits (ss.map fun s : String => Text.unitsOf s) =
      (ofNames (ss.map Text.ofString)).map fun e => ⟨Text.unitsOf e.name, e.index⟩ := by
  have hbefore : Text.Precedes = fun us vs => Text.unitsKey us < Text.unitsKey vs := by
    funext us vs
    exact propext (Text.precedes_iff_lt.trans Text.unitsKey_lt_iff.symm)
  have hk : ∀ names, KeysApart Text.unitsKey names := fun _ _ _ _ _ h => Text.unitsKey_injective h
  have hstring : Function.Injective Text.ofString := fun _ _ => Text.ofString_inj.1
  refine ⟨fun table => ⟨fun h => ?_, ?_⟩, fun names' => assign_eq_iff (hk names), fun ss => ?_⟩
  · rw [hbefore] at h
    exact h.eq_assign (hk names)
  · rintro rfl
    rw [hbefore]
    exact isTable_assign (hk names)
  · -- both tables are that of the strings under their own keys
    have hkey : ∀ s : String, Text.sortKey s = (fun s : String => Text.sortKey s) s := fun _ => rfl
    rw [ofNames, assign_map hstring hkey,
      List.map_map]
    exact assign_map Text.unitsOf_ofString_injective hkey ss

end BindingIndex.IndexTable
