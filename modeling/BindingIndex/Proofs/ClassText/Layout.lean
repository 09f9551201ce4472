import BindingIndex.ClassText
import BindingIndex.Proofs.Source.Layout

/-!
# The text of a class file, line by line

`sourceText table g` is the file of a table as it reads: the package line and the class,
`bodyText`, which is its header, the constant of all properties, one constant for each entry in
order, and the closing brace.

* `layoutAll_declare`: the class program lays out one line for each entry, and gives up at the first
  one at fault.
* `emit_eq_ok_iff`, `emit_eq_error_iff`: `emit` writes `sourceText` for a table whose entries can
  all be declared, and refuses every other table for its first fault.
-/

namespace BindingIndex.ClassText

def constantLine (final : Bool) (name : Text) (index : Index) : Text :=
  "    public static " ++ (if final then "final " else "") ++ "int " ++ name ++ " = " ++
    toString index ++ ";\n"

def bodyText (table : List (Entry Text Index)) (final : Bool) : Text :=
  "public class BR \x7b\n" ++ constantLine final "_all" 0 ++
    table.flatMap (fun e => constantLine final e.name e.index) ++ "\x7d\n"

def sourceText (table : List (Entry Text Index)) (g : Generation) : Text :=
  "package " ++ g.packageName ++ ";\n" ++ bodyText table g.useFinal

def Sound (table : List (Entry Text Index)) : Prop := ∀ e ∈ table, fault? e = none

instance (table : List (Entry Text Index)) : Decidable (Sound table) :=
  inferInstanceAs (Decidable (∀ e ∈ table, _))

/-- Why a table is refused: what is wrong with its first entry at fault. -/
def firstFault? (table : List (Entry Text Index)) : Option Fault := table.findSome? fault?

theorem fault?_eq_none_iff {e : Entry Text Index} :
    fault? e = none ↔ e.name ≠ allProperties ∧ e.index.toInt.natAbs < Text.firstTooLong := by
  unfold fault?
  by_cases hn : e.name = allProperties
  · simp [hn]
  · by_cases hi : Text.firstTooLong ≤ e.index.toInt.natAbs
    · simp [hn, hi]
    · simp [hn, Nat.lt_of_not_le hi, hi]

theorem firstFault?_eq_none_iff {table : List (Entry Text Index)} :
    firstFault? table = none ↔ Sound table := List.findSome?_eq_none_iff

theorem firstFault?_firstTooLong {name : Text} (h : name ≠ allProperties)
    (rest : List (Entry Text Index)) :
    firstFault? (⟨name, (Text.firstTooLong : Int)⟩ :: rest) = some .tooManyDigits := by
  have hlong : Text.firstTooLong ≤ ((Text.firstTooLong : Int) : Index).toInt.natAbs :=
    Nat.le_of_eq (Int.natAbs_natCast _).symm
  rw [firstFault?, List.findSome?_cons, fault?, if_neg h, if_pos hlong]

theorem constant_ne_nil (name : Text) (index : Index) (final : Bool) :
    constant name index final ≠ [] := by
  unfold constant
  simp only [List.append_assoc]
  exact List.cons_ne_nil _ _

theorem lineAt_constant (name : Text) (index : Index) (final : Bool) :
    Source.Stmt.lineAt Source.Builder.defaultIndent 1 (constant name index final) ++ "\n" =
      constantLine final name index := by
  have hmargin : (List.replicate (1 : Int).toNat Source.Builder.defaultIndent).flatten =
      Text.ofString "    " := by simp [Source.Builder.defaultIndent]
  have hstart : Text.ofString "    public static " = "    " ++ "public static " := rfl
  have hend : Text.ofString ";\n" = ";" ++ "\n" := rfl
  rw [Source.Stmt.lineAt, if_neg (constant_ne_nil name index final), hmargin, constantLine, hstart,
    hend, constant]
  simp only [List.append_assoc]

/-- The entries are laid out one line each, up to the first one at fault. -/
theorem layoutAll_declare (indent : Text) (depth : Int) (final : Bool)
    (table : List (Entry Text Index)) :
    (Source.Stmt.layoutAll indent depth (table.map (declare final))).2 = firstFault? table ∧
    (Sound table →
      (Source.Stmt.layoutAll indent depth (table.map (declare final))).1 =
        table.map fun e => Source.Stmt.lineAt indent depth (constant e.name e.index final)) := by
  induction table with
  | nil => simp [Source.Stmt.layoutAll, firstFault?]
  | cons e table ih =>
    obtain ⟨hdone, hlines⟩ := ih
    cases he : fault? e with
    | some f =>
      simp [declare, he, Source.Stmt.layoutAll, Source.Stmt.layout, firstFault?, Sound]
    | none =>
      refine ⟨?_, fun h => ?_⟩
      · rw [firstFault?, List.findSome?_cons, he]
        simp [declare, he, Source.Stmt.layoutAll, Source.Stmt.layout, hdone, firstFault?]
      · have hl := hlines fun e' he' => h e' (.tail _ he')
        simp [declare, he, Source.Stmt.layoutAll, Source.Stmt.layout, hl]

/-- The text of a block: its header, a first line, more lines and its end, each with a line feed. -/
theorem flatMap_block {header first close header' first' close' more' : Text} {more : List Text}
    (hh : header ++ "\n" = header') (hf : first ++ "\n" = first')
    (hm : more.flatMap (· ++ Text.ofString "\n") = more') (hc : close ++ "\n" = close') :
    (header :: (first :: more ++ [close])).flatMap (· ++ Text.ofString "\n") =
      header' ++ first' ++ more' ++ close' := by
  subst hh hf hm hc
  simp

section
variable {table : List (Entry Text Index)} {g : Generation}

theorem classText_eq_bodyText (final : Bool) (h : Sound table) :
    classText table final = .ok (bodyText table final) := by
  obtain ⟨hdone, hlines⟩ := layoutAll_declare Source.Builder.defaultIndent 1 final table
  have hlines := hlines h
  rw [firstFault?_eq_none_iff.2 h] at hdone
  have hmore : (table.map fun e =>
      Source.Stmt.lineAt Source.Builder.defaultIndent 1 (constant e.name e.index final)).flatMap
        (· ++ Text.ofString "\n") = table.flatMap fun e => constantLine final e.name e.index := by
    rw [List.flatMap_map]
    exact congrArg (fun f => table.flatMap f)
      (funext fun e => lineAt_constant e.name e.index final)
  unfold classText classProgram
  rw [Source.Stmt.run_eq_layout]
  simp only [Source.Stmt.layout, Source.Stmt.layoutAll, Source.Builder.new, Int.zero_add, hdone,
    hlines, Source.Builder.generate, Source.Builder.append, List.nil_append, List.singleton_append]
  exact congrArg Except.ok (flatMap_block rfl (lineAt_constant _ _ final) hmore rfl)

theorem classText_eq_error (final : Bool) {f : Fault} (h : firstFault? table = some f) :
    classText table final = .error f := by
  obtain ⟨hdone, -⟩ := layoutAll_declare Source.Builder.defaultIndent 1 final table
  rw [h] at hdone
  unfold classText classProgram
  rw [Source.Stmt.run_eq_layout]
  simp only [Source.Stmt.layout, Source.Stmt.layoutAll, Source.Builder.new, Int.zero_add, hdone]

/-- **A table has no class** if it has a fault, and fails for the first one. -/
theorem classText_eq_error_iff (final : Bool) {f : Fault} :
    classText table final = .error f ↔ firstFault? table = some f := by
  refine ⟨fun h => ?_, classText_eq_error final⟩
  cases hf : firstFault? table with
  | none => simp [classText_eq_bodyText final (firstFault?_eq_none_iff.1 hf)] at h
  | some f' =>
    rw [classText_eq_error final hf] at h
    cases h
    rfl

theorem emit_eq_sourceText (g : Generation) (h : Sound table) :
    emit table g = .ok (sourceText table g) := by
  rw [emit, classText_eq_bodyText g.useFinal h]
  rfl

theorem emit_eq_error_iff {f : Fault} : emit table g = .error f ↔ firstFault? table = some f := by
  rw [← classText_eq_error_iff g.useFinal, emit]
  cases classText table g.useFinal <;> simp [Except.map]

theorem emit_eq_error (g : Generation) {f : Fault} (h : firstFault? table = some f) :
    emit table g = .error f := emit_eq_error_iff.2 h

/-- **A file is emitted** exactly for a table without a fault. -/
theorem emit_eq_ok_iff {source : Text} :
    emit table g = .ok source ↔ Sound table ∧ sourceText table g = source := by
  cases hf : firstFault? table with
  | none =>
    have h := firstFault?_eq_none_iff.1 hf
    rw [emit_eq_sourceText g h, Except.ok.injEq]
    exact (and_iff_right h).symm
  | some f =>
    have h : ¬ Sound table := fun h => by simp [firstFault?_eq_none_iff.2 h] at hf
    simp [emit_eq_error g hf, h]

end

end BindingIndex.ClassText
