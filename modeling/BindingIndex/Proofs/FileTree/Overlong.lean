import BindingIndex.Proofs.FileTree.Walk

/-!
# Paths that are too long

The system refuses to look up a path that is too long as a whole, and a name that is too long once
the names before it have led to a directory; a long name that it does not get to is no obstacle.
`Overlong t p` says that it comes to that for the path `p` in the tree `t`.

* `lookup_eq_nameTooLong_iff`: these are the paths whose lookup fails for their length.
* `exists?_eq_error_iff`: the question whether anything is there fails for these paths only; for
  every other one it has an answer (`exists?_eq_true_iff_lookup`, `exists?_eq_false_iff`), in
  particular if nothing in the path is too long (`exists?_of_fits`).
-/

namespace BindingIndex

/-- Neither the path nor any of its names is too long for the system. -/
structure Path.Fits (p : Path) : Prop where
  names : ∀ n ∈ p.names, Text.Utf8.size n ≤ FileTree.maxName
  whole : Text.Utf8.size p.toText < FileTree.maxPath

namespace FileTree

variable {t : FileTree} {p : Path}

/-- The system gets to something in the path that is too long. -/
inductive Overlong (t : FileTree) (p : Path) : Prop
  | whole : maxPath ≤ Text.Utf8.size p.toText → Overlong t p
  | name {before after : List Text} {name : Text} {dir : Location} :
      p.names = before ++ name :: after → t.walk (t.origin p) before = .ok dir →
      t.get? dir = some .dir → name ≠ ".." → maxName < Text.Utf8.size name → Overlong t p

theorem not_overlong_of_fits (h : p.Fits) : ¬ t.Overlong p := by
  rintro (hlong | ⟨hnames, -, -, -, hlong⟩)
  · exact absurd h.whole (Nat.not_lt.2 hlong)
  · refine absurd hlong (Nat.not_lt.2 (h.names _ ?_))
    rw [hnames]
    exact List.mem_append_right _ (.head _)

theorem walk_cons_eq_nameTooLong_iff {loc : Location} {name : Text} {rest : List Text} :
    t.walk loc (name :: rest) = .error .nameTooLong ↔
      t.get? loc = some .dir ∧
        ((name = ".." ∧ t.walk loc.dropLast rest = .error .nameTooLong) ∨
          (name ≠ ".." ∧ (maxName < Text.Utf8.size name ∨
            t.walk (loc ++ [Text.Utf8.fileName name]) rest = .error .nameTooLong))) := by
  rw [walk]
  rcases t.get? loc with _ | item
  · simp
  cases item with
  | file bytes => simp
  | dir =>
    by_cases hup : name = ".."
    · simp [hup]
    · by_cases hlong : maxName < Text.Utf8.size name <;> simp [hup, hlong]

theorem walk_eq_nameTooLong_iff {loc : Location} {names : List Text} :
    t.walk loc names = .error .nameTooLong ↔
      ∃ before, ∃ name : Text, ∃ after dir, names = before ++ name :: after ∧
        t.walk loc before = .ok dir ∧ t.get? dir = some .dir ∧ name ≠ ".." ∧
        maxName < Text.Utf8.size name := by
  induction names generalizing loc with
  | nil => simp [walk]
  | cons first rest ih =>
    rw [walk_cons_eq_nameTooLong_iff]
    constructor
    · rintro ⟨hdir, ⟨hup, hw⟩ | ⟨hup, hw⟩⟩
      · obtain ⟨before, name, after, dir, rfl, hw, hrest⟩ := ih.1 hw
        exact ⟨first :: before, name, after, dir, rfl,
          walk_cons_ok_iff.2 ⟨hdir, .inl ⟨hup, hw⟩⟩, hrest⟩
      · by_cases hlong : maxName < Text.Utf8.size first
        · exact ⟨[], first, rest, loc, rfl, rfl, hdir, hup, hlong⟩
        · obtain ⟨before, name, after, dir, rfl, hw, hrest⟩ := ih.1 (hw.resolve_left hlong)
          exact ⟨first :: before, name, after, dir, rfl,
            walk_cons_ok_iff.2 ⟨hdir, .inr ⟨hup, Nat.not_lt.1 hlong, hw⟩⟩, hrest⟩
    · rintro ⟨before, name, after, dir, hnames, hw, hdir, hup, hlong⟩
      cases before with
      | nil =>
        rw [List.nil_append, List.cons.injEq] at hnames
        obtain ⟨rfl, rfl⟩ := hnames
        cases hw
        exact ⟨hdir, .inr ⟨hup, .inl hlong⟩⟩
      | cons x before =>
        rw [List.cons_append, List.cons.injEq] at hnames
        obtain ⟨rfl, rfl⟩ := hnames
        obtain ⟨hloc, ⟨hx, hw⟩ | ⟨hx, -, hw⟩⟩ := walk_cons_ok_iff.1 hw
        · exact ⟨hloc, .inl ⟨hx, ih.2 ⟨before, name, after, dir, rfl, hw, hdir, hup, hlong⟩⟩⟩
        · exact ⟨hloc, .inr ⟨hx, .inr (ih.2 ⟨before, name, after, dir, rfl, hw, hdir, hup, hlong⟩)⟩⟩

/-- **A lookup fails for a length** exactly on these paths. -/
theorem lookup_eq_nameTooLong_iff : t.lookup p = .error .nameTooLong ↔ t.Overlong p := by
  have hlookup : t.lookup p = .error .nameTooLong ↔ t.locate p = .error .nameTooLong := by
    rw [lookup]
    cases t.locate p with
    | error e => simp
    | ok loc => cases hg : t.get? loc <;> simp [hg]
  rw [hlookup, locate]
  split
  · rename_i hlong
    exact iff_of_true rfl (.whole hlong)
  · rename_i hlen
    rw [walk_eq_nameTooLong_iff]
    constructor
    · rintro ⟨before, name, after, dir, hnames, hw, hdir, hup, hlong⟩
      exact .name hnames hw hdir hup hlong
    · rintro (hlong | ⟨hnames, hw, hdir, hup, hlong⟩)
      · exact absurd hlong hlen
      · exact ⟨_, _, _, _, hnames, hw, hdir, hup, hlong⟩

theorem not_overlong_of_lookup {item : Item} (h : t.lookup p = .ok item) : ¬ t.Overlong p := by
  intro hlong
  rw [lookup_eq_nameTooLong_iff.2 hlong] at h
  cases h

theorem exists?_eq_error_iff {e : FileError} :
    t.exists? p = .error e ↔
      p.Passable ∧ t.Overlong p ∧ e = .system .nameTooLong p := by
  rw [← lookup_eq_nameTooLong_iff, exists?, ← FileError.barred?_eq_none_iff]
  cases FileError.barred? p with
  | some e => simp
  | none =>
    cases t.lookup p with
    | ok item => simp
    | error cause => cases cause <;> simp [eq_comm]

theorem exists?_eq_true_iff_lookup :
    t.exists? p = .ok true ↔ p.Passable ∧ ∃ item, t.lookup p = .ok item := by
  rw [exists?, ← FileError.barred?_eq_none_iff]
  cases FileError.barred? p with
  | some e => simp
  | none =>
    cases t.lookup p with
    | ok item => simp
    | error cause => cases cause <;> simp

theorem exists?_eq_false_iff :
    t.exists? p = .ok false ↔
      ¬ p.Passable ∨ ((∀ item, t.lookup p ≠ .ok item) ∧ ¬ t.Overlong p) := by
  rw [← lookup_eq_nameTooLong_iff, exists?, ← FileError.barred?_eq_none_iff]
  cases FileError.barred? p with
  | some e => simp
  | none =>
    cases t.lookup p with
    | ok item => simp
    | error cause => cases cause <;> simp

theorem exists?_of_fits (h : p.Fits) : ∃ there, t.exists? p = .ok there := by
  cases hthere : t.exists? p with
  | ok there => exact ⟨there, rfl⟩
  | error e => exact absurd (exists?_eq_error_iff.1 hthere).2.1 (not_overlong_of_fits h)

end FileTree

end BindingIndex
