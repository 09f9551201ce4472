import BindingIndex.Proofs.FileTree.Walk

/-!
# Trees that grow by directories

`AddsDirs p t t'`: all that is in `t` is in `t'`, and what is new are directories on the way of the
path `p`. Making a directory adds no more than that (`addsDirs_makeDir`), nor does making it with
all that lead to it, however far that gets: `addsDirs_makeDirs` holds of a failure as of a success.
-/

namespace BindingIndex

/-- The path `q` is on the way of `p`: it has the same root, and its names are the first of those of
`p`. -/
structure Path.OnTheWay (q p : Path) : Prop where
  root : q.root = p.root
  names : q.names <+: p.names

theorem Path.OnTheWay.refl (p : Path) : p.OnTheWay p := ⟨rfl, List.prefix_refl _⟩

theorem Path.OnTheWay.trans {a b c : Path} (hab : a.OnTheWay b) (hbc : b.OnTheWay c) :
    a.OnTheWay c :=
  ⟨hab.root.trans hbc.root, hab.names.trans hbc.names⟩

namespace FileTree

variable {t t₁ t₂ : FileTree} {p q : Path}

/-- What is in `t` stays as it is in `t'`, and what is new in `t'` are directories on the way of
`p`. -/
structure AddsDirs (p : Path) (t t' : FileTree) : Prop where
  current : t'.current = t.current
  kept : ∀ l item, t.get? l = some item → t'.get? l = some item
  added : ∀ l item, t.get? l = none → t'.get? l = some item →
    item = .dir ∧ ∃ q : Path, q.OnTheWay p ∧ t'.locate q = .ok l

theorem AddsDirs.keepsDirs (h : AddsDirs p t t₁) : KeepsDirs t t₁ :=
  ⟨h.current, fun l hl => h.kept l .dir hl⟩

theorem AddsDirs.refl (p : Path) (t : FileTree) : AddsDirs p t t :=
  ⟨rfl, fun _ _ h => h, fun l item hn hs => by rw [hn] at hs; cases hs⟩

theorem AddsDirs.trans (h₁ : AddsDirs p t t₁) (h₂ : AddsDirs p t₁ t₂) : AddsDirs p t t₂ := by
  refine ⟨h₂.current.trans h₁.current, fun l item h => h₂.kept l item (h₁.kept l item h),
    fun l item hn hs => ?_⟩
  cases hmid : t₁.get? l with
  | none => exact h₂.added l item hmid hs
  | some item' =>
    obtain ⟨rfl, q, hq, hloc⟩ := h₁.added l item' hn hmid
    have hsame := h₂.kept l .dir hmid
    rw [hs, Option.some.injEq] at hsame
    exact ⟨hsame, q, hq, locate_of_keepsDirs h₂.keepsDirs hloc⟩

theorem AddsDirs.of_onTheWay (h : AddsDirs q t t₁) (hq : q.OnTheWay p) : AddsDirs p t t₁ := by
  refine ⟨h.current, h.kept, fun l item hn hs => ?_⟩
  obtain ⟨hdir, r, hr, hloc⟩ := h.added l item hn hs
  exact ⟨hdir, r, hr.trans hq, hloc⟩

theorem AddsDirs.eq_of_file {bytes : List UInt8} {l : Location} (h : AddsDirs p t t₁)
    (hfile : t.get? l = some (.file bytes) ∨ t₁.get? l = some (.file bytes)) :
    t₁.get? l = t.get? l := by
  cases hg : t.get? l with
  | some item => exact h.kept l item hg
  | none =>
    rw [hg] at hfile
    rcases hfile with hfile | hfile
    · cases hfile
    · obtain ⟨hdir, -⟩ := h.added l _ hg hfile
      cases hdir

/-! ## Making directories -/

theorem makeDir_ok_iff :
    t.makeDir p = .ok t₁ ↔ p.Passable ∧ ∃ loc, t.slot p = .ok (some loc) ∧
      t.get? loc = none ∧ t₁ = t.put loc .dir := by
  rw [makeDir, ← FileError.barred?_eq_none_iff]
  cases FileError.barred? p with
  | some e => simp
  | none =>
    cases hs : t.slot p with
    | error e => simp
    | ok slot =>
      cases slot with
      | none => simp
      | some loc =>
        cases hg : t.get? loc with
        | none => simp [hg, eq_comm]
        | some item => simp [hg]

theorem addsDirs_makeDir (h : t.makeDir p = .ok t₁) : AddsDirs p t t₁ := by
  obtain ⟨-, loc, hslot, hfree, rfl⟩ := makeDir_ok_iff.1 h
  have hself : (t.put loc .dir).get? loc = some .dir := get?_put_self _ (by rw [hfree]; simp)
  have hkept : ∀ l item, t.get? l = some item → (t.put loc .dir).get? l = some item := by
    intro l item hl
    have hne : loc ≠ l := by
      rintro rfl
      rw [hfree] at hl
      cases hl
    rw [get?_put_of_ne _ hne, hl]
  have hkeep : KeepsDirs t (t.put loc .dir) := ⟨rfl, fun l hl => hkept l .dir hl⟩
  refine ⟨rfl, hkept, fun l item hn hs => ?_⟩
  by_cases hl : loc = l
  · subst hl
    rw [hself, Option.some.injEq] at hs
    exact ⟨hs.symm, p, .refl p, locate_of_keepsDirs hkeep (slot_ok_some_iff.1 hslot).1⟩
  · rw [get?_put_of_ne _ hl, hn] at hs
    cases hs

theorem ensureDir_ok (h : t.ensureDir p = .ok t₁) : t.makeDir p = .ok t₁ ∨ t₁ = t := by
  rw [ensureDir] at h
  split at h
  · rename_i hmake
    exact .inl (hmake.trans h)
  · cases h
  · split at h
    · exact .inr (Except.ok.inj h).symm
    · cases h
  · cases h

theorem addsDirs_ensureDir (h : t.ensureDir p = .ok t₁) : AddsDirs p t t₁ := by
  rcases ensureDir_ok h with hmake | rfl
  · exact addsDirs_makeDir hmake
  · exact .refl p t₁

theorem addsDirs_makeDirsUp (t : FileTree) (root : PathRoot) (up : List Text) :
    AddsDirs ⟨root, up.reverse⟩ t (t.makeDirsUp root up).1 := by
  induction up generalizing t with
  | nil =>
    rw [makeDirsUp]
    split
    · rename_i he
      exact addsDirs_ensureDir he
    · exact .refl _ t
  | cons name up ih =>
    have hup : Path.OnTheWay ⟨root, up.reverse⟩ ⟨root, (name :: up).reverse⟩ :=
      ⟨rfl, by rw [List.reverse_cons]; exact List.prefix_append _ _⟩
    have hparents := (ih t).of_onTheWay hup
    rw [makeDirsUp]
    split
    · rename_i he
      exact addsDirs_ensureDir he
    · -- the parents are made first; the last step starts from what became of them
      generalize t.makeDirsUp root up = made at hparents
      obtain ⟨t₁, r⟩ := made
      cases r with
      | error e => exact hparents
      | ok =>
        dsimp only
        split
        · rename_i he
          exact hparents.trans (addsDirs_ensureDir he)
        · exact hparents
    · exact .refl _ t

/-- **Making a directory and all that lead to it** adds directories on its way, and nothing else,
even if it fails halfway. -/
theorem addsDirs_makeDirs (t : FileTree) (p : Path) : AddsDirs p t (t.makeDirs p).1 := by
  have h := addsDirs_makeDirsUp t p.root p.names.reverse
  rwa [List.reverse_reverse] at h

/-! ## Putting a file -/

/-- The tree `t'` is `t` with a file of these bytes at the location of `p`, where no directory was;
what else is new are directories on the way of `p`. -/
structure PutsFile (p : Path) (bytes : List UInt8) (t t' : FileTree) (loc : Location) : Prop where
  current : t'.current = t.current
  located : t'.locate p = .ok loc
  placed : t'.get? loc = some (.file bytes)
  replaced : t.get? loc ≠ some .dir
  kept : ∀ l item, l ≠ loc → t.get? l = some item → t'.get? l = some item
  added : ∀ l item, l ≠ loc → t.get? l = none → t'.get? l = some item →
    item = .dir ∧ ∃ q : Path, q.OnTheWay p ∧ t'.locate q = .ok l

theorem putsFile_of_read {bytes : List UInt8} (h : t.read p = .ok bytes) :
    ∃ loc, PutsFile p bytes t t loc := by
  obtain ⟨loc, hloc, hfile⟩ := lookup_ok_iff.1 (read_ok_iff.1 h).2
  have hdir : t.get? loc ≠ some .dir := by rw [hfile]; simp
  exact ⟨loc, rfl, hloc, hfile, hdir, fun _ _ _ h => h,
    fun l item _ hn hs => by rw [hn] at hs; cases hs⟩

theorem AddsDirs.putsFile {bytes : List UInt8} (h : AddsDirs p t t₁)
    (hw : t₁.write p bytes = .ok t₂) : ∃ loc, PutsFile p bytes t t₂ loc := by
  obtain ⟨-, loc, hslot, hdir, rfl⟩ := write_ok_iff.1 hw
  have hkeep := keepsDirs_put_file bytes hdir
  refine ⟨loc, h.current, locate_of_keepsDirs hkeep (slot_ok_some_iff.1 hslot).1,
    get?_put_self _ hdir, fun hd => hdir (h.kept loc .dir hd), fun l item hne hl => ?_,
    fun l item hne hn hs => ?_⟩
  · rw [get?_put_of_ne _ (Ne.symm hne)]
    exact h.kept l item hl
  · rw [get?_put_of_ne _ (Ne.symm hne)] at hs
    obtain ⟨hitem, q, hq, hloc⟩ := h.added l item hn hs
    exact ⟨hitem, q, hq, locate_of_keepsDirs hkeep hloc⟩

theorem PutsFile.keepsDirs {bytes : List UInt8} {loc : Location}
    (h : PutsFile p bytes t t₁ loc) : KeepsDirs t t₁ := by
  refine ⟨h.current, fun l hl => h.kept l .dir ?_ hl⟩
  rintro rfl
  exact h.replaced hl

theorem PutsFile.eq_of_changed {bytes old : List UInt8} {loc l : Location}
    (h : PutsFile p bytes t t₁ loc)
    (hfile : t.get? l = some (.file old) ∨ t₁.get? l = some (.file old))
    (hne : t₁.get? l ≠ t.get? l) : l = loc := by
  refine Classical.byContradiction fun hl => ?_
  cases hg : t.get? l with
  | some item => exact hne (by rw [h.kept l item hl hg, hg])
  | none =>
    rw [hg] at hfile
    rcases hfile with hfile | hfile
    · cases hfile
    · obtain ⟨hdir, -⟩ := h.added l _ hl hg hfile
      cases hdir

/-- Both paths lead to one location. -/
def Meet (t : FileTree) (p q : Path) : Prop := ∃ loc, t.locate p = .ok loc ∧ t.locate q = .ok loc

theorem PutsFile.read {bytes old : List UInt8} {loc : Location} (h : PutsFile p bytes t t₁ loc)
    (hq : ¬ Meet t₁ q p) (hread : t.read q = .ok old) : t₁.read q = .ok old := by
  obtain ⟨hp, hlook⟩ := read_ok_iff.1 hread
  obtain ⟨l, hl, hfile⟩ := lookup_ok_iff.1 hlook
  have hl₁ := locate_of_keepsDirs h.keepsDirs hl
  have hne : l ≠ loc := by
    rintro rfl
    exact hq ⟨l, hl₁, h.located⟩
  exact read_ok_iff.2 ⟨hp, lookup_ok_iff.2 ⟨l, hl₁, h.kept l _ hne hfile⟩⟩

end FileTree

end BindingIndex
