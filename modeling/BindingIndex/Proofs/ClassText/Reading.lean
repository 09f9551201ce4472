import BindingIndex.Proofs.ClassText.Layout
import BindingIndex.Proofs.Text.Splitting

/-!
# Reading a class file back

Nothing in a class file is escaped, and still the file tells its table, its package and its
finality. `readSource` finds them from the end of the text:

* No constant holds a line feed, so every constant is one line, and the last line that reads
  `public class BR {` is the header of the class, whatever the package contains.
* The constant of all properties is the first below it and tells whether constants are final.
* An integer holds no blank, as a number and as a word, so the last blank of a line stands before
  its value, and the name is what is left (`readEntry_constantChars`).

`readSource_sourceText` puts these together, and `emit_decodable` says it of `emit`: a file
determines its table, in order, and its settings.
-/

namespace BindingIndex.ClassText

/-- A name that can be declared on a line of its own. -/
def Declarable (name : Text) : Prop := CodePoint.char '\n' ∉ name ∧ name ≠ allProperties

instance (name : Text) : Decidable (Declarable name) := inferInstanceAs (Decidable (_ ∧ _))

/-! ## Integers -/

/-- The integer that a decimal text stands for. -/
def readInt : List Char → Int
  | '-' :: digits => -(Nat.ofDigitChars 10 digits 0 : Nat)
  | digits => (Nat.ofDigitChars 10 digits 0 : Nat)

theorem isDigit_of_mem_toDigits {c : Char} {n : Nat} (h : c ∈ Nat.toDigits 10 n) :
    c.isDigit = true :=
  Nat.isDigit_of_mem_toDigits (by decide) (by decide) h

theorem toList_toString_int (i : Int) :
    (∃ n : Nat, i = n ∧ (toString i).toList = Nat.toDigits 10 n) ∨
      ∃ n : Nat, i = -(n : Int) ∧ (toString i).toList = '-' :: Nat.toDigits 10 n := by
  cases i with
  | ofNat n => exact .inl ⟨n, rfl, Nat.toList_repr⟩
  | negSucc n =>
    refine .inr ⟨n + 1, rfl, ?_⟩
    show ("-" ++ Nat.repr (n + 1)).toList = _
    rw [String.toList_append, Nat.toList_repr]
    rfl

theorem readInt_toString (i : Int) : readInt (toString i).toList = i := by
  rcases toList_toString_int i with ⟨n, rfl, hn⟩ | ⟨n, rfl, hn⟩
  · rw [hn]
    unfold readInt
    split
    · rename_i digits heq
      have hm : '-' ∈ Nat.toDigits 10 n := heq ▸ .head _
      exact absurd (isDigit_of_mem_toDigits hm) (by decide)
    · rw [Nat.ofDigitChars_ten_toDigits]
  · rw [hn, readInt, Nat.ofDigitChars_ten_toDigits]

theorem mem_toString_int {c : Char} {i : Int} (h : c ∈ (toString i).toList) :
    c.isDigit = true ∨ c = '-' := by
  rcases toList_toString_int i with ⟨n, -, hn⟩ | ⟨n, -, hn⟩ <;> rw [hn] at h
  · exact .inl (isDigit_of_mem_toDigits h)
  · rcases List.mem_cons.1 h with rfl | h
    · exact .inr rfl
    · exact .inl (isDigit_of_mem_toDigits h)

theorem not_mem_toString_int {c : Char} (hd : c.isDigit = false) (hs : c ≠ '-') (i : Int) :
    c ∉ (toString i).toList := by
  intro h
  rcases mem_toString_int h with h | h
  · rw [hd] at h
    exact absurd h (by decide)
  · exact hs h

/-! ## Indices -/

/-- The index that a text stands for: two words are truth values. -/
def readIndex (chars : List Char) : Index :=
  if chars = "True".toList then .truth true
  else if chars = "False".toList then .truth false
  else .number (readInt chars)

theorem readIndex_toString (i : Index) : readIndex (toString i).toList = i := by
  cases i with
  | truth b => cases b <;> decide
  | number n =>
    -- no letter stands in a decimal number
    have htrue : (toString n).toList ≠ "True".toList := fun h =>
      not_mem_toString_int (c := 'T') (by decide) (by decide) n (h ▸ by decide)
    have hfalse : (toString n).toList ≠ "False".toList := fun h =>
      not_mem_toString_int (c := 'F') (by decide) (by decide) n (h ▸ by decide)
    show readIndex (toString n).toList = _
    rw [readIndex, if_neg htrue, if_neg hfalse, readInt_toString]

/-- The text of an index holds a sign at most before the digits. -/
theorem mem_toString_index {c : Char} {i : Index} (h : c ∈ (toString i).toList) :
    0x30 ≤ c.toNat ∨ c = '-' := by
  cases i with
  | truth b =>
    have hword : (toString (Index.truth b)).toList.all (fun d => 0x30 ≤ d.toNat) = true := by
      cases b <;> decide
    exact .inl (of_decide_eq_true (List.all_eq_true.1 hword c h))
  | number n =>
    exact (mem_toString_int (i := n) h).imp_left fun hd => (Char.isDigit_iff_toNat.1 hd).1

theorem not_mem_toString_index {c : Char} (hc : c.toNat < 0x30) (hs : c ≠ '-') (i : Index) :
    c ∉ (toString i).toList := by
  intro h
  rcases mem_toString_index h with h | h
  · exact absurd h (Nat.not_le.2 hc)
  · exact hs h

/-! ## Constants -/

/-- How the line of a constant starts. -/
def constantStart (final : Bool) : Text :=
  "    public static " ++ (if final then "final " else "") ++ "int "

/-- The line of a constant, without its line feed. -/
def constantChars (final : Bool) (name : Text) (index : Index) : Text :=
  constantStart final ++ (name ++ " = " ++ toString index ++ ";")

theorem constantLine_eq (final : Bool) (name : Text) (index : Index) :
    constantLine final name index = constantChars final name index ++ [.char '\n'] := by
  have hend : Text.ofString ";\n" = Text.ofString ";" ++ [.char '\n'] := rfl
  unfold constantLine constantChars constantStart
  simp only [List.append_assoc, hend]

/-- The entry that a line declares: its value stands after the last blank. -/
def readEntry (final : Bool) (line : Text) : Entry Text Index :=
  let body := (line.drop (constantStart final).length).dropLast.reverse
  { name := ((body.dropWhile (· ≠ .char ' ')).drop 3).reverse
    index := readIndex (Text.shown (body.takeWhile (· ≠ .char ' ')).reverse) }

theorem readEntry_constantChars (final : Bool) (name : Text) (index : Index) :
    readEntry final (constantChars final name index) = ⟨name, index⟩ := by
  have hvalue : ∀ p ∈ (Text.ofString (toString index)).reverse,
      decide (p ≠ .char ' ') = true := by
    intro p hp
    refine decide_eq_true fun he => ?_
    rw [List.mem_reverse, he, Text.char_mem_ofString] at hp
    exact not_mem_toString_index (by decide) (by decide) index hp
  have hbody : ((constantChars final name index).drop (constantStart final).length).dropLast.reverse
      = (Text.ofString (toString index)).reverse ++
        .char ' ' :: .char '=' :: .char ' ' :: name.reverse := by
    have hsep : Text.ofString " = " = [.char ' ', .char '=', .char ' '] := rfl
    have hend : Text.ofString ";" = [.char ';'] := rfl
    rw [constantChars, List.drop_left, hend, List.dropLast_concat, hsep]
    simp
  unfold readEntry
  rw [hbody]
  dsimp only
  rw [List.dropWhile_append_of_pos hvalue, List.takeWhile_append_of_pos hvalue]
  simp only [ne_eq, not_true_eq_false, decide_false, Bool.false_eq_true, not_false_eq_true,
    List.dropWhile_cons_of_neg, List.takeWhile_cons_of_neg, List.drop_succ_cons, List.drop_zero,
    List.reverse_reverse, List.append_nil, Text.ofString, Text.shown_ofChars, readIndex_toString]

/-! ## Files -/

def classHeader : Text := "public class BR \x7b"

/-- The package that is named in the lines before the class. -/
def readPackage (lines : List Text) : Text :=
  (([.char '\n'].intercalate lines).drop "package ".length).dropLast

/-- The table and the settings of a class file. -/
def readSource (text : Text) : List (Entry Text Index) × Generation :=
  let up := (text.splitOn (.char '\n')).reverse.drop 2
  let constants := (up.takeWhile (· ≠ classHeader)).reverse
  let final : Bool := constants.head? = some (constantChars true allProperties allIndex)
  (constants.tail.map (readEntry final),
    ⟨readPackage ((up.dropWhile (· ≠ classHeader)).drop 1).reverse, final⟩)

/-- The lines of a file between its package and its end. -/
def classLines (table : List (Entry Text Index)) (final : Bool) : List Text :=
  classHeader :: constantChars final allProperties allIndex ::
    table.map (fun e => constantChars final e.name e.index) ++ [Text.ofString "\x7d"]

theorem bodyText_eq (table : List (Entry Text Index)) (final : Bool) :
    bodyText table final = (classLines table final).flatMap (· ++ [.char '\n']) := by
  have hhead : Text.ofString "public class BR \x7b\n" = classHeader ++ [.char '\n'] := rfl
  have hend : Text.ofString "\x7d\n" = Text.ofString "\x7d" ++ [.char '\n'] := rfl
  have hall : constantLine final "_all" 0 = _ := constantLine_eq final allProperties allIndex
  unfold bodyText classLines
  rw [hhead, hend, hall]
  simp only [constantLine_eq, List.cons_append, List.flatMap_cons, List.flatMap_append,
    List.append_assoc, List.flatMap_nil, List.append_nil, List.flatMap_map]

theorem newline_not_mem_constantChars {name : Text} (h : CodePoint.char '\n' ∉ name) (final : Bool)
    (index : Index) : CodePoint.char '\n' ∉ constantChars final name index := by
  have hstart : CodePoint.char '\n' ∉ constantStart final := by cases final <;> decide
  have hsep : CodePoint.char '\n' ∉ Text.ofString " = " := by decide
  have hend : CodePoint.char '\n' ∉ Text.ofString ";" := by decide
  have hvalue := not_mem_toString_index (c := '\n') (by decide) (by decide) index
  simp only [constantChars, List.mem_append, Text.char_mem_ofString (s := toString index), not_or]
  exact ⟨hstart, ⟨⟨h, hsep⟩, hvalue⟩, hend⟩

theorem splitOn_sourceText {table : List (Entry Text Index)} (g : Generation)
    (h : ∀ e ∈ table, CodePoint.char '\n' ∉ e.name) :
    (sourceText table g).splitOn (.char '\n') =
      (Text.ofString "package " ++ g.packageName ++ [CodePoint.char ';']).splitOn (.char '\n') ++
        (classLines table g.useFinal ++ [[]]) := by
  have hlines : ∀ line ∈ classLines table g.useFinal, CodePoint.char '\n' ∉ line := by
    intro line hl
    simp only [classLines, List.mem_cons, List.mem_append, List.mem_map, List.cons_append,
      List.not_mem_nil, or_false] at hl
    rcases hl with rfl | rfl | ⟨e, he, rfl⟩ | rfl
    · decide
    · exact newline_not_mem_constantChars (by decide) g.useFinal allIndex
    · exact newline_not_mem_constantChars (h e he) g.useFinal e.index
    · decide
  have hend : Text.ofString ";\n" = [.char ';'] ++ [.char '\n'] := rfl
  have hsource : sourceText table g =
      (Text.ofString "package " ++ g.packageName ++ [.char ';']) ++
        .char '\n' :: ((classLines table g.useFinal).flatMap (· ++ [.char '\n']) ++ []) := by
    rw [sourceText, hend, bodyText_eq]
    simp only [List.append_assoc, List.cons_append, List.nil_append, List.append_nil]
  rw [hsource, List.splitOn_append_cons_self, Text.splitOn_ended hlines]
  rfl

theorem constantChars_ne_classHeader (final : Bool) (name : Text) (index : Index) :
    constantChars final name index ≠ classHeader := by
  intro h
  have hhead : (constantChars final name index).head? = some (.char ' ') := by cases final <;> rfl
  rw [h] at hhead
  exact absurd hhead (by decide)

theorem constantChars_final_eq_iff (final : Bool) :
    constantChars final allProperties allIndex = constantChars true allProperties allIndex ↔
      final = true := by
  cases final with
  | false => exact iff_of_false (by decide) (by decide)
  | true => exact iff_of_true rfl rfl

theorem readPackage_splitOn (packageName : Text) :
    readPackage ((Text.ofString "package " ++ packageName ++ [CodePoint.char ';']).splitOn
      (.char '\n')) = packageName := by
  have hlength : (Text.ofString "package ").length = "package ".length := by decide
  rw [readPackage, List.intercalate_splitOn, List.append_assoc, ← hlength, List.drop_left,
    List.dropLast_concat]

/-- From the last constant upward: the constants, the class header and the lines of the package. -/
theorem reverse_splitOn_sourceText {table : List (Entry Text Index)} (g : Generation)
    (h : ∀ e ∈ table, CodePoint.char '\n' ∉ e.name) :
    ((sourceText table g).splitOn (.char '\n')).reverse.drop 2 =
      (constantChars g.useFinal allProperties allIndex ::
        table.map fun e => constantChars g.useFinal e.name e.index).reverse ++
      classHeader :: ((Text.ofString "package " ++ g.packageName ++ [CodePoint.char ';']).splitOn
        (.char '\n')).reverse := by
  rw [splitOn_sourceText g h, classLines]
  simp

/-- **A file is read back** to its table and its settings. -/
theorem readSource_sourceText {table : List (Entry Text Index)} (g : Generation)
    (h : ∀ e ∈ table, CodePoint.char '\n' ∉ e.name) :
    readSource (sourceText table g) = (table, g) := by
  have hconst : ∀ line ∈ (constantChars g.useFinal allProperties allIndex ::
      table.map (fun e => constantChars g.useFinal e.name e.index)).reverse,
      decide (line ≠ classHeader) = true := by
    intro line hl
    rw [List.mem_reverse, List.mem_cons, List.mem_map] at hl
    refine decide_eq_true ?_
    rcases hl with rfl | ⟨e, -, rfl⟩
    · exact constantChars_ne_classHeader _ _ _
    · exact constantChars_ne_classHeader _ _ _
  have hfinal : decide (some (constantChars g.useFinal allProperties allIndex) =
      some (constantChars true allProperties allIndex)) = g.useFinal := by
    rw [Bool.eq_iff_iff, decide_eq_true_iff, Option.some.injEq, constantChars_final_eq_iff]
  have hid : (readEntry g.useFinal ∘ fun e : Entry Text Index =>
      constantChars g.useFinal e.name e.index) = id :=
    funext fun e => readEntry_constantChars g.useFinal e.name e.index
  unfold readSource
  rw [reverse_splitOn_sourceText g h]
  dsimp only
  rw [List.dropWhile_append_of_pos hconst, List.takeWhile_append_of_pos hconst,
    List.dropWhile_cons_of_neg (by simp), List.takeWhile_cons_of_neg (by simp), List.append_nil,
    List.reverse_reverse, List.drop_succ_cons, List.drop_zero, List.reverse_reverse,
    readPackage_splitOn, List.head?_cons, List.tail_cons, List.map_map, hfinal, hid, List.map_id]

theorem sound_iff_of_declarable {table : List (Entry Text Index)}
    (h : ∀ e ∈ table, Declarable e.name) :
    Sound table ↔ ∀ e ∈ table, e.index.toInt.natAbs < Text.firstTooLong :=
  forall₂_congr fun e he => fault?_eq_none_iff.trans (and_iff_right (h e he).2)

/-- **Emitted files are decodable.** For a table of names that hold no line feed and are not the
reserved name, in any order, with any integers and any package, every file that is emitted is read
back to the table and the settings; so no other table and no other settings give the same file. A
file is emitted unless an integer has too many digits. -/
theorem emit_decodable {table : List (Entry Text Index)} (g : Generation)
    (h : ∀ e ∈ table, Declarable e.name) :
    (∀ text, emit table g = .ok text → readSource text = (table, g)) ∧
    (∀ (table' : List (Entry Text Index)) (g' : Generation) (text : Text),
      (∀ e ∈ table', Declarable e.name) → emit table g = .ok text → emit table' g' = .ok text →
        table = table' ∧ g = g') ∧
    ((∃ text, emit table g = .ok text) ↔
      ∀ e ∈ table, e.index.toInt.natAbs < Text.firstTooLong) := by
  have hread : ∀ {table : List (Entry Text Index)} {g : Generation} {text : Text},
      (∀ e ∈ table, Declarable e.name) → emit table g = .ok text →
        readSource text = (table, g) := by
    intro table g text h hemit
    obtain ⟨-, rfl⟩ := emit_eq_ok_iff.1 hemit
    exact readSource_sourceText g fun e he => (h e he).1
  refine ⟨fun text => hread h, fun table' g' text h' hemit hemit' => ?_, ?_⟩
  · have heq := (hread h hemit).symm.trans (hread h' hemit')
    exact ⟨congrArg Prod.fst heq, congrArg Prod.snd heq⟩
  · rw [← sound_iff_of_declarable h]
    exact ⟨fun ⟨_, hemit⟩ => (emit_eq_ok_iff.1 hemit).1,
      fun hs => ⟨_, emit_eq_sourceText g hs⟩⟩

/-- A package that holds a class header, and names that look like declarations. -/
theorem emit_decodable_lookalikes :
    (∀ e ∈ [(⟨"final int a = 1; b", (-5 : Int)⟩ : Entry Text Index), ⟨"a = b", 7⟩, ⟨"\x7d", 7⟩],
      Declarable e.name) ∧
    ∃ text, emit [⟨"final int a = 1; b", (-5 : Int)⟩, ⟨"a = b", 7⟩, ⟨"\x7d", 7⟩]
        ⟨"p;\npublic class BR \x7b", false⟩ = .ok text ∧
      readSource text = ([⟨"final int a = 1; b", (-5 : Int)⟩, ⟨"a = b", 7⟩, ⟨"\x7d", 7⟩],
        ⟨"p;\npublic class BR \x7b", false⟩) := by
  have h : ∀ e ∈ [(⟨"final int a = 1; b", (-5 : Int)⟩ : Entry Text Index), ⟨"a = b", 7⟩,
      ⟨"\x7d", 7⟩], Declarable e.name := by decide
  obtain ⟨hread, -, hemitted⟩ := emit_decodable ⟨"p;\npublic class BR \x7b", false⟩ h
  obtain ⟨text, htext⟩ := hemitted.2 (by decide +kernel)
  exact ⟨h, text, htext, hread text htext⟩

end BindingIndex.ClassText
