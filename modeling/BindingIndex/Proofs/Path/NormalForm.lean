import BindingIndex.Proofs.Path.Text
import BindingIndex.Proofs.Text.Splitting

/-!
# Normal paths

A path that was read is normal: its names are none of those that reading leaves out and hold no
slash (`isNormal_ofText`). The text of a normal path reads back to it (`ofText_toText`), so writing
a path that was read and reading it again changes nothing.
-/

namespace BindingIndex.Path

/-- The name is one that reading keeps, and no slash cuts it. -/
def IsKept (n : Text) : Prop := n ≠ [] ∧ n ≠ "." ∧ .char '/' ∉ n

instance (n : Text) : Decidable (IsKept n) := inferInstanceAs (Decidable (_ ∧ _ ∧ _))

/-- The path is in normal form. -/
def IsNormal (p : Path) : Prop := ∀ n ∈ p.names, IsKept n

theorem isNormal_ofText (t : Text) : (ofText t).IsNormal := by
  intro n hn
  obtain ⟨hpiece, hkept⟩ := List.mem_filter.1 hn
  have hne := of_decide_eq_true hkept
  exact ⟨hne.1, hne.2, Text.not_mem_of_mem_splitOn hpiece⟩

theorem components_cons_slash (t : Text) : components (.char '/' :: t) = components t := by
  have h := List.splitOn_append_cons_self (a := CodePoint.char '/') [] t
  rw [List.nil_append, List.splitOn_nil] at h
  rw [components, h]
  rfl

theorem components_intercalate {names : List Text} (h : ∀ n ∈ names, IsKept n) :
    components ((Text.ofString "/").intercalate names) = names := by
  by_cases hne : names = []
  · subst hne
    rfl
  have hslash : Text.ofString "/" = [.char '/'] := rfl
  rw [components, hslash, List.splitOn_intercalate _ (fun n hn => (h n hn).2.2) hne,
    List.filter_eq_self]
  exact fun n hn => decide_eq_true ⟨(h n hn).1, (h n hn).2.1⟩

theorem head?_intercalate_ne {names : List Text} (h : ∀ n ∈ names, IsKept n) (rest : Text) :
    (Text.ofString "/").intercalate names ≠ .char '/' :: rest := by
  cases names with
  | nil => exact List.cons_ne_nil _ _ ∘ Eq.symm
  | cons n names =>
    obtain ⟨h1, -, h3⟩ := h n (.head _)
    obtain ⟨c, cs, rfl⟩ := List.exists_cons_of_ne_nil h1
    intro he
    rw [List.intercalate_cons_cons_left, List.cons.injEq] at he
    exact h3 (he.1 ▸ .head _)

theorem rootOf_of_no_slash {t : Text} (h : ∀ rest, t ≠ .char '/' :: rest) :
    rootOf t = .relative ∧ rootOf (.char '/' :: t) = .single ∧
      rootOf (.char '/' :: .char '/' :: t) = .double := by
  cases t with
  | nil => exact ⟨rfl, rfl, rfl⟩
  | cons c cs =>
    have hc : c ≠ .char '/' := fun he => h cs (he ▸ rfl)
    refine ⟨?_, ?_, ?_⟩ <;> simp [rootOf, hc]

/-- **The text of a normal path** reads back to it. -/
theorem ofText_toText {p : Path} (h : p.IsNormal) : ofText p.toText = p := by
  obtain ⟨root, names⟩ := p
  have hc : components ((Text.ofString "/").intercalate names) = names := components_intercalate h
  obtain ⟨hrel, hone, htwo⟩ := rootOf_of_no_slash (head?_intercalate_ne h)
  have hread : ∀ t, body ⟨root, names⟩ = t → t ≠ [] → rootOf t = root →
      components t = names → ofText (toText ⟨root, names⟩) = ⟨root, names⟩ := by
    rintro t rfl hne hroot hnames
    rw [toText_eq, if_neg hne, ofText, hroot, hnames]
  have hslash : Text.ofString "/" = [.char '/'] := rfl
  have hslashes : Text.ofString "//" = [.char '/', .char '/'] := rfl
  cases root with
  | relative =>
    by_cases hn : names = []
    · subst hn
      rfl
    · refine hread _ rfl (fun he => hn ?_) hrel hc
      rw [← hc, (List.append_eq_nil_iff.1 he).2]
      rfl
  | single =>
    exact hread (.char '/' :: _) (by rw [body, rootText, hslash]; rfl) (List.cons_ne_nil _ _) hone
      ((components_cons_slash _).trans hc)
  | double =>
    exact hread (.char '/' :: .char '/' :: _) (by rw [body, rootText, hslashes]; rfl)
      (List.cons_ne_nil _ _) htwo
      ((components_cons_slash _).trans ((components_cons_slash _).trans hc))

end BindingIndex.Path
