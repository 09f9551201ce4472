import BindingIndex.Proofs.ClassFile.Confinement
import BindingIndex.Proofs.FileTree.Overlong
import BindingIndex.Proofs.PropertyList.RoundTrip

/-!
# Directories that hold the same

`SameSubtree t d t' d'`: the path `d` leads to a directory of `t` that holds what the directory
holds that `d'` leads to in `t'`, on every level. From there on a walk without a step up goes the
same way in both (`SameBelow.walk`). So a path that goes down from such a directory leads to the
same item (`SameSubtree.lookup`), and what is read there is the same, be it bytes
(`SameSubtree.read_iff`) or a property list (`SameSubtree.readList_iff`). What is in the trees
outside of the directories, where they are and which directory is the current one has no say in
that.
-/

namespace BindingIndex

/-- A path that goes down from where it is taken: it has no root of its own, and no step up. -/
structure Path.Descends (q : Path) : Prop where
  relative : q.root = .relative
  noUp : ↑".." ∉ q.names

theorem Path.Descends.join {q : Path} (h : q.Descends) (d : Path) :
    d.join q = ⟨d.root, d.names ++ q.names⟩ := by
  rw [Path.join, Path.isAbsolute, h.relative]
  rfl

theorem Path.Descends.passable_join {q : Path} (h : q.Descends) (d : Path) :
    (d.join q).Passable ↔ d.Passable ∧ q.Passable := by
  rw [h.join]
  exact List.forall_mem_append

namespace FileTree

variable {t t' : FileTree} {l l' : Location} {d d' q : Path}

/-! ## Walks -/

/-- What is at `l` in `t` and below it is at `l'` in `t'` and below it. -/
def SameBelow (t : FileTree) (l : Location) (t' : FileTree) (l' : Location) : Prop :=
  ∀ rest, t'.get? (l' ++ rest) = t.get? (l ++ rest)

theorem SameBelow.symm (h : SameBelow t l t' l') : SameBelow t' l' t l := fun rest => (h rest).symm

theorem SameBelow.child (h : SameBelow t l t' l') (name : Name) :
    SameBelow t (l ++ [name]) t' (l' ++ [name]) := by
  intro rest
  rw [List.append_assoc, List.append_assoc, h]

theorem walk_append_eq (t : FileTree) (loc : Location) (xs ys : List Text) :
    t.walk loc (xs ++ ys) = (t.walk loc xs).bind fun mid => t.walk mid ys := by
  induction xs generalizing loc with
  | nil => rfl
  | cons x xs ih =>
    rw [List.cons_append, walk, walk]
    cases t.get? loc with
    | none => rfl
    | some item =>
      cases item with
      | file bytes => rfl
      | dir =>
        dsimp only
        split
        · exact ih _
        · split
          · rfl
          · exact ih _

/-- **A walk without a step up** goes straight down in both trees, or fails in both for one
cause. -/
theorem SameBelow.walk (h : SameBelow t l t' l') {names : List Text} (hup : ↑".." ∉ names) :
    (t.walk l names = .ok (l ++ names.map Text.Utf8.fileName) ∧
      t'.walk l' names = .ok (l' ++ names.map Text.Utf8.fileName)) ∨
      ∃ e, t.walk l names = .error e ∧ t'.walk l' names = .error e := by
  induction names generalizing l l' with
  | nil =>
    exact .inl ⟨by rw [FileTree.walk, List.map_nil, List.append_nil],
      by rw [FileTree.walk, List.map_nil, List.append_nil]⟩
  | cons name rest ih =>
    simp only [List.mem_cons, not_or] at hup
    have hhere : t'.get? l' = t.get? l := by simpa using h []
    rw [FileTree.walk, FileTree.walk, hhere]
    cases t.get? l with
    | none => exact .inr ⟨_, rfl, rfl⟩
    | some item =>
      cases item with
      | file bytes => exact .inr ⟨_, rfl, rfl⟩
      | dir =>
        dsimp only
        rw [if_neg (Ne.symm hup.1), if_neg (Ne.symm hup.1)]
        by_cases hlong : maxName < Text.Utf8.size name
        · rw [if_pos hlong, if_pos hlong]
          exact .inr ⟨_, rfl, rfl⟩
        · rw [if_neg hlong, if_neg hlong, List.map_cons,
            List.append_cons l _ (rest.map _), List.append_cons l' _ (rest.map _)]
          exact ih (h.child _) hup.2

/-! ## Paths that go down -/

/-- Both paths lead to directories, and these hold the same. -/
structure SameSubtree (t : FileTree) (d : Path) (t' : FileTree) (d' : Path) : Prop where
  passable : d.Passable ∧ d'.Passable
  same : ∃ l l', t.locate d = .ok l ∧ t'.locate d' = .ok l' ∧ t.get? l = some .dir ∧
    SameBelow t l t' l'

theorem SameSubtree.symm (h : SameSubtree t d t' d') : SameSubtree t' d' t d := by
  obtain ⟨l, l', hl, hl', hdir, hsame⟩ := h.same
  refine ⟨⟨h.passable.2, h.passable.1⟩, l', l, hl', hl, ?_, hsame.symm⟩
  have hhere := hsame []
  rwa [List.append_nil, List.append_nil, hdir] at hhere

/-- A file that is put outside of a directory changes nothing in it. -/
theorem SameSubtree.put (h : SameSubtree t d t' d') {loc : Location} {bytes : List UInt8}
    (hfile : t.get? loc ≠ some .dir) (houtside : ∀ l, t.locate d = .ok l → ¬ l <+: loc) :
    SameSubtree t d (t.put loc (.file bytes)) d := by
  obtain ⟨l, -, hl, -, hdir, -⟩ := h.same
  have hloc := locate_of_keepsDirs (keepsDirs_put_file bytes hfile) hl
  refine ⟨⟨h.passable.1, h.passable.1⟩, l, l, hl, hloc, hdir, fun rest => ?_⟩
  refine get?_put_of_ne _ fun he => houtside l hl ?_
  rw [he]
  exact List.prefix_append _ _

theorem locate_join (hq : q.Descends) (hl : t.locate d = .ok l)
    (hsize : Text.Utf8.size (d.join q).toText < maxPath) :
    t.locate (d.join q) = t.walk l q.names := by
  rw [locate, if_neg (Nat.not_le.2 hsize), hq.join, walk_append_eq]
  have hwalk : t.walk (t.origin ⟨d.root, d.names ++ q.names⟩) d.names = .ok l :=
    (locate_ok_iff.1 hl).2
  rw [hwalk]
  rfl

/-- **A path that goes down** leads to the same item from either directory. -/
theorem SameSubtree.lookup (h : SameSubtree t d t' d') (hq : q.Descends)
    (hsize : Text.Utf8.size (d.join q).toText < maxPath)
    (hsize' : Text.Utf8.size (d'.join q).toText < maxPath) :
    t'.lookup (d'.join q) = t.lookup (d.join q) := by
  obtain ⟨l, l', hl, hl', -, hsame⟩ := h.same
  rw [FileTree.lookup, FileTree.lookup, locate_join hq hl hsize, locate_join hq hl' hsize']
  rcases hsame.walk hq.noUp with ⟨hw, hw'⟩ | ⟨e, hw, hw'⟩
  · rw [hw, hw']
    dsimp only
    rw [hsame]
  · rw [hw, hw']

theorem SameSubtree.read_iff (h : SameSubtree t d t' d') (hq : q.Descends)
    (hsize : Text.Utf8.size (d.join q).toText < maxPath)
    (hsize' : Text.Utf8.size (d'.join q).toText < maxPath) {bytes : List UInt8} :
    t'.read (d'.join q) = .ok bytes ↔ t.read (d.join q) = .ok bytes := by
  rw [read_ok_iff, read_ok_iff, h.lookup hq hsize hsize', hq.passable_join, hq.passable_join,
    and_iff_right h.passable.1, and_iff_right h.passable.2]

theorem SameSubtree.readList_iff (h : SameSubtree t d t' d') (hq : q.Descends)
    (hsize : Text.Utf8.size (d.join q).toText < maxPath)
    (hsize' : Text.Utf8.size (d'.join q).toText < maxPath) {names : List String} :
    PropertyList.read t' (d'.join q) = .ok names ↔ PropertyList.read t (d.join q) = .ok names := by
  rw [PropertyList.read_eq_ok_iff, PropertyList.read_eq_ok_iff]
  simp only [h.read_iff hq hsize hsize']

end FileTree

end BindingIndex
