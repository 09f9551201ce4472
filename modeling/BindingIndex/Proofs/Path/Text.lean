import BindingIndex.Path
import BindingIndex.Proofs.Text.Utf8

/-!
# The text of a path

The text of a parent is not longer than that of its path (`size_toText_parent_le`), so a path that
is short enough for the system has a parent that is.
-/

namespace BindingIndex.Path

/-- The text of a path, unless it is empty. -/
def body (p : Path) : Text := rootText p.root ++ (Text.ofString "/").intercalate p.names

theorem toText_eq (p : Path) : p.toText = if p.body = [] then ↑"." else p.body := rfl

theorem size_intercalate_dropLast_le (names : List Text) :
    Text.Utf8.size ((Text.ofString "/").intercalate names.dropLast) ≤
      Text.Utf8.size ((Text.ofString "/").intercalate names) := by
  induction names with
  | nil => exact Nat.le_refl _
  | cons name names ih =>
    cases names with
    | nil => exact Nat.zero_le _
    | cons second more =>
      rw [List.dropLast_cons_cons]
      cases more with
      | nil =>
        rw [List.dropLast_singleton, List.intercalate_singleton, List.intercalate_cons_cons,
          Text.Utf8.size_append, Text.Utf8.size_append]
        omega
      | cons third more =>
        rw [List.dropLast_cons_cons] at ih ⊢
        rw [List.intercalate_cons_cons, List.intercalate_cons_cons]
        simp only [Text.Utf8.size_append] at ih ⊢
        omega

theorem size_body_parent_le (p : Path) :
    Text.Utf8.size p.parent.body ≤ Text.Utf8.size p.body := by
  simp only [parent, body, Text.Utf8.size_append]
  exact Nat.add_le_add_left (size_intercalate_dropLast_le p.names) _

theorem size_toText_parent_le (p : Path) :
    Text.Utf8.size p.parent.toText ≤ max 1 (Text.Utf8.size p.toText) := by
  have hle := size_body_parent_le p
  rw [toText_eq, toText_eq]
  split
  · exact Nat.le_max_left _ _
  · split
    · rename_i hne he
      rw [he] at hle
      exact Nat.le_trans hle (Nat.zero_le _)
    · exact Nat.le_trans hle (Nat.le_max_right _ _)

end BindingIndex.Path
