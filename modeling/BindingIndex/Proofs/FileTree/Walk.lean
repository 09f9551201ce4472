import BindingIndex.FileTree.Operations
import BindingIndex.Proofs.Path.Passable
import BindingIndex.Proofs.Path.Text

/-!
# Following paths

A walk only asks which locations are directories. So a tree that keeps the directories of another
one (`KeepsDirs`) walks every path the same way that the other one walks (`walk_of_keepsDirs`), and
putting a file where no directory is keeps them all (`keepsDirs_put_file`).

For a path that ends in a name of its own, `slot` and `locate` are one question
(`slot_ok_some_iff`): the location where a new item would go is the location of the path. So
what `write` put is what the path leads to (`read_of_write`), and the parent of a path that was
followed is a directory (`lookup_parent`), for which `makeDirs` has nothing to do
(`makeDirs_of_dir`).
-/

namespace BindingIndex.FileTree

variable {t t' : FileTree} {p : Path}

/-! ## Walks -/

/-- Every directory of `t` is one of `t'`, and the current directory is the same. -/
structure KeepsDirs (t t' : FileTree) : Prop where
  current : t'.current = t.current
  dirs : ∀ l, t.get? l = some .dir → t'.get? l = some .dir

theorem KeepsDirs.origin (h : KeepsDirs t t') (p : Path) : t'.origin p = t.origin p := by
  rw [FileTree.origin, FileTree.origin, h.current]

theorem walk_cons_ok_iff {loc r : Location} {name : Text} {rest : List Text} :
    t.walk loc (name :: rest) = .ok r ↔ t.get? loc = some .dir ∧
      ((name = ".." ∧ t.walk loc.dropLast rest = .ok r) ∨
        (name ≠ ".." ∧ Text.Utf8.size name ≤ maxName ∧
          t.walk (loc ++ [Text.Utf8.fileName name]) rest = .ok r)) := by
  rw [walk]
  cases hl : t.get? loc with
  | none => simp
  | some item =>
    cases item with
    | file bytes => simp
    | dir =>
      by_cases hup : name = ".."
      · simp [hup]
      · by_cases hlen : maxName < Text.Utf8.size name
        · simp [hup, hlen, Nat.not_le.2 hlen]
        · simp [hup, hlen, Nat.not_lt.1 hlen]

theorem walk_singleton_ok_iff {dir loc : Location} {name : Text} :
    t.walk dir [name] = .ok loc ↔ t.get? dir = some .dir ∧
      ((name = ".." ∧ dir.dropLast = loc) ∨
        (name ≠ ".." ∧ Text.Utf8.size name ≤ maxName ∧
          dir ++ [Text.Utf8.fileName name] = loc)) := by
  rw [walk_cons_ok_iff]
  simp only [walk, Except.ok.injEq]

theorem walk_append {loc r : Location} {xs ys : List Text} :
    t.walk loc (xs ++ ys) = .ok r ↔ ∃ mid, t.walk loc xs = .ok mid ∧ t.walk mid ys = .ok r := by
  induction xs generalizing loc with
  | nil => simp [walk]
  | cons x xs ih =>
    rw [List.cons_append, walk_cons_ok_iff]
    constructor
    · rintro ⟨hdir, ⟨hx, hw⟩ | ⟨hx, hlen, hw⟩⟩
      · obtain ⟨mid, h1, h2⟩ := ih.1 hw
        exact ⟨mid, walk_cons_ok_iff.2 ⟨hdir, .inl ⟨hx, h1⟩⟩, h2⟩
      · obtain ⟨mid, h1, h2⟩ := ih.1 hw
        exact ⟨mid, walk_cons_ok_iff.2 ⟨hdir, .inr ⟨hx, hlen, h1⟩⟩, h2⟩
    · rintro ⟨mid, h1, h2⟩
      obtain ⟨hdir, ⟨hx, hw⟩ | ⟨hx, hlen, hw⟩⟩ := walk_cons_ok_iff.1 h1
      · exact ⟨hdir, .inl ⟨hx, ih.2 ⟨mid, hw, h2⟩⟩⟩
      · exact ⟨hdir, .inr ⟨hx, hlen, ih.2 ⟨mid, hw, h2⟩⟩⟩

theorem walk_of_keepsDirs (h : KeepsDirs t t') {loc r : Location} {names : List Text}
    (hw : t.walk loc names = .ok r) : t'.walk loc names = .ok r := by
  induction names generalizing loc with
  | nil => exact hw
  | cons name rest ih =>
    obtain ⟨hdir, ⟨hx, hr⟩ | ⟨hx, hlen, hr⟩⟩ := walk_cons_ok_iff.1 hw
    · exact walk_cons_ok_iff.2 ⟨h.dirs _ hdir, .inl ⟨hx, ih hr⟩⟩
    · exact walk_cons_ok_iff.2 ⟨h.dirs _ hdir, .inr ⟨hx, hlen, ih hr⟩⟩

theorem locate_ok_iff {loc : Location} :
    t.locate p = .ok loc ↔
      Text.Utf8.size p.toText < maxPath ∧ t.walk (t.origin p) p.names = .ok loc := by
  rw [locate]
  split
  · rename_i h
    simp [Nat.not_lt.2 h]
  · rename_i h
    simp [Nat.not_le.1 h]

theorem locate_of_keepsDirs (h : KeepsDirs t t') {loc : Location} (hl : t.locate p = .ok loc) :
    t'.locate p = .ok loc := by
  obtain ⟨hlen, hw⟩ := locate_ok_iff.1 hl
  exact locate_ok_iff.2 ⟨hlen, by rw [h.origin]; exact walk_of_keepsDirs h hw⟩

theorem lookup_ok_iff {item : Item} :
    t.lookup p = .ok item ↔ ∃ loc, t.locate p = .ok loc ∧ t.get? loc = some item := by
  rw [lookup]
  cases t.locate p with
  | error e => simp
  | ok loc =>
    cases hg : t.get? loc with
    | none => simp [hg]
    | some i => simp [hg]

/-! ## Where a new item goes -/

/-- A slot is the location of its path: the name at the end of the path, below the directory that
the names before it lead to. -/
theorem slot_ok_some_iff {loc : Location} :
    t.slot p = .ok (some loc) ↔ t.locate p = .ok loc ∧
      ∃ (init : List Text) (name : Text), p.names = init ++ [name] ∧ name ≠ ".." := by
  rw [locate_ok_iff, slot]
  split
  · rename_i h
    simp [Nat.not_lt.2 h]
  rename_i hlen
  rcases List.eq_nil_or_concat p.names with hn | ⟨init, name, hn⟩
  · simp [hn]
  rw [List.concat_eq_append] at hn
  have hnames : (∃ (init' : List Text) (name' : Text), p.names = init' ++ [name'] ∧
      name' ≠ "..") ↔ name ≠ ".." := by
    rw [hn]
    constructor
    · rintro ⟨init', name', he, hne⟩
      obtain ⟨-, hname⟩ := List.append_inj' he rfl
      rw [List.singleton_inj] at hname
      exact hname ▸ hne
    · exact fun hne => ⟨init, name, rfl, hne⟩
  rw [hnames, hn, List.getLast?_concat, List.dropLast_concat, walk_append]
  dsimp only
  cases hw : t.walk (t.origin p) init with
  | error e => simp
  | ok dir =>
    have hmid : (∃ mid, (Except.ok dir : Except FileErrorCause Location) = .ok mid ∧
        t.walk mid [name] = .ok loc) ↔ t.walk dir [name] = .ok loc := by simp
    rw [hmid, walk_singleton_ok_iff]
    dsimp only
    cases hg : t.get? dir with
    | none => simp
    | some item =>
      cases item with
      | file bytes => simp
      | dir =>
        by_cases hup : name = ".."
        · simp [hup]
        · by_cases hnl : maxName < Text.Utf8.size name
          · simp [hup, hnl, Nat.not_le.2 hnl]
          · simp [hup, hnl, Nat.not_lt.1 hnl, Nat.not_le.1 hlen]

theorem walk_init_of_locate {loc : Location} {init : List Text} {name : Text}
    (h : t.locate p = .ok loc) (hn : p.names = init ++ [name]) :
    ∃ dir, t.walk (t.origin p) init = .ok dir ∧ t.get? dir = some .dir := by
  obtain ⟨-, hw⟩ := locate_ok_iff.1 h
  rw [hn, walk_append] at hw
  obtain ⟨dir, hinit, hlast⟩ := hw
  exact ⟨dir, hinit, (walk_cons_ok_iff.1 hlast).1⟩

theorem lookup_parent {loc : Location} (h : t.locate p = .ok loc) (hn : p.names ≠ []) :
    t.lookup p.parent = .ok .dir := by
  rcases List.eq_nil_or_concat p.names with he | ⟨init, name, hn⟩
  · exact absurd he hn
  rw [List.concat_eq_append] at hn
  obtain ⟨dir, hinit, hdir⟩ := walk_init_of_locate h hn
  have hlen := (locate_ok_iff.1 h).1
  refine lookup_ok_iff.2 ⟨dir, locate_ok_iff.2 ⟨?_, ?_⟩, hdir⟩
  · have hmax : 1 < maxPath := by decide
    have := Path.size_toText_parent_le p
    omega
  · show t.walk (t.origin p) p.names.dropLast = .ok dir
    rw [hn, List.dropLast_concat, hinit]

/-! ## Files that were put -/

theorem get?_put_of_ne {loc l : Location} (item : Item) (h : loc ≠ l) :
    (t.put loc item).get? l = t.get? l := by
  rw [get?_put, if_neg h]
  split
  · rename_i hp
    rw [get?, if_pos hp]
  · rfl

/-- The current directory and those above it stay directories. -/
theorem get?_put_self {loc : Location} (item : Item) (h : t.get? loc ≠ some .dir) :
    (t.put loc item).get? loc = some item := by
  rw [get?_put, if_neg, if_pos rfl]
  intro hp
  exact h (by rw [get?, if_pos hp])

theorem keepsDirs_put_file {loc : Location} (bytes : List UInt8) (h : t.get? loc ≠ some .dir) :
    KeepsDirs t (t.put loc (.file bytes)) := by
  refine ⟨rfl, fun l hl => ?_⟩
  have hne : loc ≠ l := by
    rintro rfl
    exact h hl
  rw [get?_put_of_ne _ hne, hl]

theorem write_ok_iff {bytes : List UInt8} :
    t.write p bytes = .ok t' ↔ p.Passable ∧ ∃ loc, t.slot p = .ok (some loc) ∧
      t.get? loc ≠ some .dir ∧ t' = t.put loc (.file bytes) := by
  rw [write, ← FileError.barred?_eq_none_iff]
  cases FileError.barred? p with
  | some e => simp
  | none =>
    cases hs : t.slot p with
    | error e => simp
    | ok slot =>
      cases slot with
      | none => simp
      | some loc =>
        cases hg : t.get? loc with
        | none => simp [hg, eq_comm]
        | some item => cases item <;> simp [hg, eq_comm]

theorem read_ok_iff {bytes : List UInt8} :
    t.read p = .ok bytes ↔ p.Passable ∧ t.lookup p = .ok (.file bytes) := by
  rw [read, ← FileError.barred?_eq_none_iff]
  cases FileError.barred? p with
  | some e => simp
  | none =>
    cases hl : t.lookup p with
    | error e => simp
    | ok item => cases item <;> simp

theorem exists?_of_read {bytes : List UInt8} (h : t.read p = .ok bytes) :
    t.exists? p = .ok true := by
  obtain ⟨hp, hl⟩ := read_ok_iff.1 h
  rw [exists?, FileError.barred?_eq_none_iff.2 hp, hl]

/-- **What was written is read.** -/
theorem read_of_write {bytes : List UInt8} (h : t.write p bytes = .ok t') :
    t'.read p = .ok bytes := by
  obtain ⟨hp, loc, hs, hg, rfl⟩ := write_ok_iff.1 h
  have hloc := (slot_ok_some_iff.1 hs).1
  have hkeep := keepsDirs_put_file bytes hg
  exact read_ok_iff.2 ⟨hp, lookup_ok_iff.2
    ⟨loc, locate_of_keepsDirs hkeep hloc, get?_put_self _ hg⟩⟩

theorem write_of_read {old : List UInt8} (bytes : List UInt8) (h : t.read p = .ok old)
    (hlast : ∃ (init : List Text) (name : Text), p.names = init ++ [name] ∧ name ≠ "..") :
    ∃ t', t.write p bytes = .ok t' := by
  obtain ⟨hp, hl⟩ := read_ok_iff.1 h
  obtain ⟨loc, hloc, hg⟩ := lookup_ok_iff.1 hl
  refine ⟨_, write_ok_iff.2 ⟨hp, loc, slot_ok_some_iff.2 ⟨hloc, hlast⟩, ?_, rfl⟩⟩
  rw [hg]
  exact fun he => by cases he

/-! ## Directories that are there -/

theorem ensureDir_of_dir (hp : p.Passable) (h : t.lookup p = .ok .dir) :
    t.ensureDir p = .ok t := by
  obtain ⟨loc, hloc, hdir⟩ := lookup_ok_iff.1 h
  have hmake : t.makeDir p = .error (.system .exists p) := by
    rw [makeDir, FileError.barred?_eq_none_iff.2 hp]
    rcases List.eq_nil_or_concat p.names with hn | ⟨init, name, hn⟩
    · have hslot : t.slot p = .ok none := by
        rw [slot, if_neg (Nat.not_le.2 (locate_ok_iff.1 hloc).1), hn]
        rfl
      rw [hslot]
    rw [List.concat_eq_append] at hn
    by_cases hup : name = ".."
    · obtain ⟨dir, hinit, hd⟩ := walk_init_of_locate hloc hn
      have hslot : t.slot p = .ok none := by
        rw [slot, if_neg (Nat.not_le.2 (locate_ok_iff.1 hloc).1), hn, List.getLast?_concat,
          List.dropLast_concat]
        dsimp only
        rw [hinit]
        dsimp only
        rw [hd]
        exact if_pos hup
      rw [hslot]
    · rw [slot_ok_some_iff.2 ⟨hloc, init, name, hn, hup⟩]
      dsimp only
      rw [hdir]
  rw [ensureDir, hmake]
  dsimp only
  rw [isDir, h]
  rfl

theorem makeDirs_of_dir (hp : p.Passable) (h : t.lookup p = .ok .dir) :
    t.makeDirs p = (t, .ok ()) := by
  have hensure := ensureDir_of_dir hp h
  obtain ⟨root, names⟩ := p
  rcases List.eq_nil_or_concat names with rfl | ⟨init, name, rfl⟩
  · rw [makeDirs, List.reverse_nil, makeDirsUp, hensure]
  · rw [List.concat_eq_append] at hensure ⊢
    simp only [makeDirs, List.reverse_append, List.reverse_cons, List.reverse_nil,
      List.nil_append, List.singleton_append, makeDirsUp, List.reverse_reverse]
    rw [hensure]

end BindingIndex.FileTree
