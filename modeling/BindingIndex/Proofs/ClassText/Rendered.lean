import BindingIndex.Proofs.ClassText.Reading
import BindingIndex.Proofs.IndexTable.Canonical

/-!
# Rendering names

Names are rendered unless the reserved one is among them (`render_eq_ok_iff`,
`render_eq_error_iff`), and the file is then the one of their table; a table of so many names that
an index could not be written is left out. What a table gives as such is `emit_iff_sourceText`: its
integers stand in decimal unless one is a truth value (`sourceText_eq_decimalText_iff`). A character
below the blank is a line feed in a file, or it stands in the package or in a name
(`mem_sourceText_of_lt_blank`).
-/

namespace BindingIndex.ClassText

variable {names : List Text} {g : Generation}

/-! ## The faults of a table -/

theorem fault?_eq_some_iff {e : Entry Text Index} {f : Fault} :
    fault? e = some f ↔ e.name = allProperties ∧ f = .reserved ∨
      e.name ≠ allProperties ∧ Text.firstTooLong ≤ e.index.toInt.natAbs ∧ f = .tooManyDigits := by
  unfold fault?
  split
  · rename_i hn
    simp [hn, eq_comm]
  · rename_i hn
    split <;> rename_i hi <;> simp [hn, hi, eq_comm]

theorem sound_iff {table : List (Entry Text Index)} :
    Sound table ↔ ∀ e ∈ table,
      e.name ≠ allProperties ∧ e.index.toInt.natAbs < Text.firstTooLong :=
  forall₂_congr fun _ _ => fault?_eq_none_iff

theorem firstFault?_eq_some_iff {table : List (Entry Text Index)} {f : Fault} :
    firstFault? table = some f ↔ ∃ before e after, table = before ++ e :: after ∧ Sound before ∧
      fault? e = some f := by
  rw [firstFault?, List.findSome?_eq_some_iff]
  constructor
  · rintro ⟨before, e, after, ht, he, hb⟩
    exact ⟨before, e, after, ht, hb, he⟩
  · rintro ⟨before, e, after, ht, hb, he⟩
    exact ⟨before, e, after, ht, he, hb⟩

theorem firstFault?_of_lt {table : List (Entry Text Index)}
    (h : ∀ e ∈ table, e.index.toInt.natAbs < Text.firstTooLong) {f : Fault} :
    firstFault? table = some f ↔ f = .reserved ∧ ∃ e ∈ table, e.name = allProperties := by
  have hfault : ∀ e ∈ table, fault? e = if e.name = allProperties then some .reserved else none :=
    fun e he => by rw [fault?, if_neg (Nat.not_le.2 (h e he))]
  constructor
  · intro hf
    obtain ⟨before, e, after, rfl, -, hs⟩ := firstFault?_eq_some_iff.1 hf
    have he : e ∈ before ++ e :: after := List.mem_append_right _ (.head _)
    rw [hfault e he] at hs
    split at hs
    · cases hs
      exact ⟨rfl, e, he, ‹_›⟩
    · cases hs
  · rintro ⟨rfl, e, he, hr⟩
    cases hf : firstFault? table with
    | none => exact absurd hr (fault?_eq_none_iff.1 (firstFault?_eq_none_iff.1 hf e he)).1
    | some f =>
      obtain ⟨before, d, after, rfl, -, hs⟩ := firstFault?_eq_some_iff.1 hf
      rw [hfault d (List.mem_append_right _ (.head _))] at hs
      split at hs
      · exact hs.symm
      · cases hs

/-! ## The reserved name -/

theorem mem_ofNames_iff {n : Text} : (∃ e ∈ IndexTable.ofNames names, e.name = n) ↔ n ∈ names := by
  rw [← List.mem_map, IndexTable.ofNames, IndexTable.assign, IndexTable.map_name_number,
    IndexTable.mem_ordered]

theorem exists_mem_declared {table : List (Entry Text)} {P : Entry Text Index → Prop} :
    (∃ e ∈ (table : List (Entry Text Index)), P e) ↔ ∃ e ∈ table, P e.declared := by
  simp only [List.mem_map, exists_exists_and_eq_and]

theorem forall_mem_declared {table : List (Entry Text)} {P : Entry Text Index → Prop} :
    (∀ e ∈ (table : List (Entry Text Index)), P e) ↔ ∀ e ∈ table, P e.declared :=
  List.forall_mem_map

theorem mem_declared_iff {n : Text} :
    (∃ e ∈ (IndexTable.ofNames names : List (Entry Text Index)), e.name = n) ↔ n ∈ names :=
  exists_mem_declared.trans mem_ofNames_iff

theorem length_ofNames_le (names : List Text) :
    (IndexTable.ofNames names).length ≤ names.length := by
  rw [IndexTable.ofNames, IndexTable.assign, IndexTable.length_number]
  exact IndexTable.length_ordered_le Text.sortKey names

theorem natAbs_index_le {e : Entry Text} (he : e ∈ IndexTable.ofNames names) :
    e.index.natAbs ≤ (IndexTable.ofNames names).length := by
  obtain ⟨i, hi⟩ := List.getElem?_of_mem he
  have hlt := (List.getElem?_eq_some_iff.1 hi).1
  rw [IndexTable.ofNames, IndexTable.assign, IndexTable.getElem?_number] at hi
  obtain ⟨n, -, rfl⟩ := Option.map_eq_some_iff.1 hi
  show (1 + (i : Int)).natAbs ≤ _
  omega

section
variable (hl : (IndexTable.ofNames names).length < Text.firstTooLong)
include hl

theorem natAbs_index_lt : ∀ e ∈ (IndexTable.ofNames names : List (Entry Text Index)),
    e.index.toInt.natAbs < Text.firstTooLong :=
  forall_mem_declared.2 fun _ he => Nat.lt_of_le_of_lt (natAbs_index_le he) hl

/-- **Names are refused** exactly if the reserved one is among them. -/
theorem render_eq_error_iff {f : Fault} :
    render names g = .error f ↔ f = .reserved ∧ (allProperties : Text) ∈ names := by
  rw [render, emit_eq_error_iff, firstFault?_of_lt (natAbs_index_lt hl), mem_declared_iff]

theorem sound_ofNames :
    Sound (IndexTable.ofNames names) ↔ (allProperties : Text) ∉ names := by
  rw [← mem_declared_iff]
  refine ⟨fun h ⟨e, he, hr⟩ => (fault?_eq_none_iff.1 (h e he)).1 hr, fun h e he => ?_⟩
  exact fault?_eq_none_iff.2 ⟨fun hr => h ⟨e, he, hr⟩, natAbs_index_lt hl e he⟩

/-- **Names are rendered** exactly if the reserved one is not among them. -/
theorem render_eq_ok_iff {source : Text} :
    render names g = .ok source ↔
      (allProperties : Text) ∉ names ∧ sourceText (IndexTable.ofNames names) g = source := by
  rw [render, emit_eq_ok_iff, sound_ofNames hl]

theorem render_eq_sourceText (g : Generation) (h : (allProperties : Text) ∉ names) :
    render names g = .ok (sourceText (IndexTable.ofNames names) g) :=
  (render_eq_ok_iff hl).2 ⟨h, rfl⟩

end

theorem of_render_eq_ok {source : Text} (h : render names g = .ok source) :
    (allProperties : Text) ∉ names ∧ sourceText (IndexTable.ofNames names) g = source := by
  obtain ⟨hs, hsource⟩ := emit_eq_ok_iff.1 h
  refine ⟨fun hr => ?_, hsource⟩
  obtain ⟨e, he, hn⟩ := mem_declared_iff.2 hr
  exact (fault?_eq_none_iff.1 (hs e he)).1 hn

/-! ## Integers in decimal -/

/-- The entry with the integer that is meant. -/
def meant (e : Entry Text Index) : Entry Text := ⟨e.name, e.index.toInt⟩

/-- The file of a table with all its integers in decimal. -/
def decimalText (table : List (Entry Text Index)) (g : Generation) : Text :=
  sourceText (table.map meant : List (Entry Text)) g

/-- The line of a truth value differs from that of the integer, whatever follows. -/
theorem constantLine_truth_ne (final : Bool) (name : Text) (b : Bool) (x y : Text) :
    constantLine final name (.truth b) ++ x ≠ constantLine final name b.toInt ++ y := by
  unfold constantLine
  simp only [List.append_assoc, ne_eq, List.append_cancel_left_eq]
  intro h
  have hhead := congrArg List.head? h
  cases b with
  | true =>
    change some (CodePoint.char 'T') = some (CodePoint.char '1') at hhead
    exact absurd hhead (by decide)
  | false =>
    change some (CodePoint.char 'F') = some (CodePoint.char '0') at hhead
    exact absurd hhead (by decide)

theorem flatMap_constantLine_eq_iff (final : Bool) {table : List (Entry Text Index)} :
    table.flatMap (fun e => constantLine final e.name e.index) =
        table.flatMap (fun e => constantLine final e.name e.index.toInt) ↔
      ∀ e ∈ table, e.index = e.index.toInt := by
  induction table with
  | nil => simp
  | cons e table ih =>
    obtain ⟨name, index⟩ := e
    rw [List.flatMap_cons, List.flatMap_cons, List.forall_mem_cons, ← ih]
    cases index with
    | number n => exact List.append_right_inj _ |>.trans (and_iff_right rfl).symm
    | truth b =>
      exact iff_of_false (constantLine_truth_ne final name b _ _) fun h => Index.noConfusion h.1

theorem sourceText_eq_decimalText_iff {table : List (Entry Text Index)} (g : Generation) :
    sourceText table g = decimalText table g ↔ ∀ e ∈ table, e.index = e.index.toInt := by
  rw [← flatMap_constantLine_eq_iff g.useFinal]
  unfold decimalText sourceText bodyText
  simp only [List.append_assoc, List.append_cancel_left_eq, List.append_cancel_right_eq,
    List.flatMap_map]
  rfl

/-! ## Files -/

/-- **What a class file holds.** A table is refused for its first entry with the reserved name or an
index of too many digits. Any other gives the package line, the class header, the constant of all
properties, one constant for each entry in order, and the closing brace. All integers in it are
decimal unless one of them is a truth value. Where every index can be written, the reserved name
alone is refused, wherever it stands. Names are then refused if it is among them, and otherwise give
this text for their set in ascending order, numbered from 1. -/
theorem emit_iff_sourceText (g : Generation) :
    (∀ table : List (Entry Text Index),
      (∀ f, emit table g = .error f ↔
        ∃ (before : List (Entry Text Index)) (e : Entry Text Index)
            (after : List (Entry Text Index)),
          table = before ++ e :: after ∧
          (∀ d ∈ before, d.name ≠ "_all" ∧ d.index.toInt.natAbs < Text.firstTooLong) ∧
          (e.name = "_all" ∧ f = .reserved ∨
            e.name ≠ "_all" ∧ Text.firstTooLong ≤ e.index.toInt.natAbs ∧ f = .tooManyDigits)) ∧
      (∀ source, emit table g = .ok source ↔
        (∀ e ∈ table, e.name ≠ "_all" ∧ e.index.toInt.natAbs < Text.firstTooLong) ∧
          source = sourceText table g) ∧
      (emit table g = .ok (decimalText table g) ↔
        ∀ e ∈ table, e.name ≠ "_all" ∧ e.index.toInt.natAbs < Text.firstTooLong ∧
          e.index = e.index.toInt) ∧
      ((∀ e ∈ table, e.index.toInt.natAbs < Text.firstTooLong) →
        ∀ f, emit table g = .error f ↔ f = .reserved ∧ ∃ e ∈ table, e.name = "_all")) ∧
    ∀ names : List Text, IndexTable.KeysApart Text.sortKey names →
      names.length < Text.firstTooLong →
      (∀ f, render names g = .error f ↔ f = .reserved ∧ ("_all" : Text) ∈ names) ∧
      ∀ source, render names g = .ok source ↔ ("_all" : Text) ∉ names ∧ ∃ table,
        IndexTable.IsTable (fun a b => Text.Precedes (Text.unitsOf a) (Text.unitsOf b)) names
          table ∧ source = sourceText table g := by
  constructor
  · refine fun table => ⟨fun f => ?_, fun source => ?_, ?_, fun h f => ?_⟩
    · rw [emit_eq_error_iff, firstFault?_eq_some_iff]
      simp only [sound_iff, fault?_eq_some_iff]
      rfl
    · exact emit_eq_ok_iff.trans (and_congr sound_iff eq_comm)
    · rw [emit_eq_ok_iff, sourceText_eq_decimalText_iff, sound_iff, ← forall₂_and]
      exact forall₂_congr fun _ _ => and_assoc
    · exact emit_eq_error_iff.trans (firstFault?_of_lt h)
  · intro names hk hlength
    have hl := Nat.lt_of_le_of_lt (length_ofNames_le names) hlength
    refine ⟨fun f => render_eq_error_iff hl, fun source => ?_⟩
    -- the set of names has one table
    simp only [IndexTable.isTable_iff_ofNames hk, exists_eq_left]
    exact (render_eq_ok_iff hl).trans (and_congr_right fun _ => eq_comm)

/-- Integers that are not written in decimal: one of too many digits is refused, also where the
reserved name stands behind it, and a truth value is written as a word. -/
theorem emit_not_decimal :
    (∀ e ∈ [(⟨"a", (Text.firstTooLong : Int)⟩ : Entry Text Index)], e.name ≠ "_all") ∧
    emit [⟨"a", (Text.firstTooLong : Int)⟩] ⟨"p", false⟩ = .error .tooManyDigits ∧
    emit [⟨"a", (Text.firstTooLong : Int)⟩, ⟨"_all", 1⟩] ⟨"p", false⟩ = .error .tooManyDigits ∧
    emit [⟨"a", .truth true⟩] ⟨"p", false⟩ =
      .ok ("package p;\npublic class BR \x7b\n    public static int _all = 0;\n" ++
        "    public static int a = True;\n\x7d\n") ∧
    decimalText [⟨"a", .truth true⟩] ⟨"p", false⟩ =
      "package p;\npublic class BR \x7b\n    public static int _all = 0;\n" ++
        "    public static int a = 1;\n\x7d\n" :=
  ⟨by decide, emit_eq_error _ (firstFault?_firstTooLong (by decide) _),
    emit_eq_error _ (firstFault?_firstTooLong (by decide) _),
    emit_eq_ok_iff.2 ⟨by decide +kernel, by decide +kernel⟩, by decide +kernel⟩

/-- Two names in the wrong order, one of them given again. -/
theorem emit_iff_sourceText_two :
    IndexTable.KeysApart Text.sortKey ["b", "a", "b"] ∧ 3 < Text.firstTooLong ∧
      render ["b", "a", "b"] ⟨"p", true⟩ = .ok (sourceText [⟨"a", 1⟩, ⟨"b", 2⟩] ⟨"p", true⟩) := by
  have hk : IndexTable.KeysApart Text.sortKey ["b", "a", "b"] :=
    IndexTable.keysApart_ofString ["b", "a", "b"]
  have hl : 3 < Text.firstTooLong := by decide +kernel
  exact ⟨hk, hl, (((emit_iff_sourceText ⟨"p", true⟩).2 _ hk hl).2 _).2
    ⟨by decide, _, (IndexTable.isTable_iff_ofNames hk).2 rfl, by decide⟩⟩

/-! ## Characters of a file -/

theorem isUnicode_sourceText_iff {table : List (Entry Text Index)} :
    (sourceText table g).IsUnicode ↔
      g.packageName.IsUnicode ∧ ∀ e ∈ table, e.name.IsUnicode := by
  have hentries : Text.IsUnicode (table.flatMap fun e => constantLine g.useFinal e.name e.index) ↔
      ∀ e ∈ table, e.name.IsUnicode := by
    unfold Text.IsUnicode
    rw [List.forall_mem_flatMap]
    refine forall₂_congr fun e _ => ?_
    show Text.IsUnicode (constantLine g.useFinal e.name e.index) ↔ e.name.IsUnicode
    simp [constantLine]
  simp only [sourceText, bodyText, Text.isUnicode_append, hentries]
  simp [constantLine]

theorem blank_le_of_all {s : Text} (h : s.all (fun p => decide (0x20 ≤ p.toNat)) = true) :
    ∀ p ∈ s, 0x20 ≤ p.toNat := fun p hp => of_decide_eq_true (List.all_eq_true.1 h p hp)

theorem mem_constantChars_of_lt_blank {p : CodePoint} (hp : p.toNat < 0x20) {final : Bool}
    {name : Text} {index : Index} (h : p ∈ constantChars final name index) : p ∈ name := by
  have hstart : ∀ d ∈ constantStart final, 0x20 ≤ d.toNat :=
    blank_le_of_all (by cases final <;> decide)
  have hsep : ∀ d ∈ Text.ofString " = ", 0x20 ≤ d.toNat := blank_le_of_all (by decide)
  have hend : ∀ d ∈ Text.ofString ";", 0x20 ≤ d.toNat := blank_le_of_all (by decide)
  have hindex : ∀ d ∈ Text.ofString (toString index), 0x20 ≤ d.toNat := by
    intro d hd
    obtain ⟨c, hc, rfl⟩ := List.mem_map.1 hd
    rcases mem_toString_index hc with hc | rfl
    · exact Nat.le_trans (by decide) hc
    · decide
  simp only [constantChars, List.mem_append] at h
  rcases h with h | ((h | h) | h) | h
  · exact absurd (hstart p h) (Nat.not_le.2 hp)
  · exact h
  · exact absurd (hsep p h) (Nat.not_le.2 hp)
  · exact absurd (hindex p h) (Nat.not_le.2 hp)
  · exact absurd (hend p h) (Nat.not_le.2 hp)

/-- **A character below the blank** in a file is a line feed, or it comes from the package or from a
name. -/
theorem mem_sourceText_of_lt_blank {p : CodePoint} (hp : p.toNat < 0x20)
    {table : List (Entry Text Index)} (h : p ∈ sourceText table g) :
    p = .char '\n' ∨ p ∈ g.packageName ∨ ∃ e ∈ table, p ∈ e.name := by
  have hstart : ∀ d ∈ Text.ofString "package ", 0x20 ≤ d.toNat := blank_le_of_all (by decide)
  have hend : ∀ d ∈ Text.ofString ";\n", d.toNat < 0x20 → d = .char '\n' := by decide
  have hhead : ∀ d ∈ classHeader, 0x20 ≤ d.toNat := blank_le_of_all (by decide)
  have hclose : ∀ d ∈ Text.ofString "\x7d", 0x20 ≤ d.toNat := blank_le_of_all (by decide)
  have hall : ∀ d ∈ Text.ofString allProperties, 0x20 ≤ d.toNat := blank_le_of_all (by decide)
  rw [sourceText, bodyText_eq] at h
  simp only [List.mem_append, List.mem_flatMap, List.mem_singleton] at h
  rcases h with ((h | h) | h) | ⟨line, hline, h | rfl⟩
  · exact absurd (hstart p h) (Nat.not_le.2 hp)
  · exact .inr (.inl h)
  · exact .inl (hend p h hp)
  · simp only [classLines, List.cons_append, List.mem_cons, List.mem_append, List.mem_map,
      List.not_mem_nil, or_false] at hline
    rcases hline with rfl | rfl | ⟨e, he, rfl⟩ | rfl
    · exact absurd (hhead p h) (Nat.not_le.2 hp)
    · exact absurd (hall p (mem_constantChars_of_lt_blank hp h)) (Nat.not_le.2 hp)
    · exact .inr (.inr ⟨e, he, mem_constantChars_of_lt_blank hp h⟩)
    · exact absurd (hclose p h) (Nat.not_le.2 hp)
  · exact .inl rfl

end BindingIndex.ClassText
