import BindingIndex.Proofs.FileTree.Growth

/-!
# Placing files in well-formed trees

In a well-formed tree all that leads to an item is a directory. There a path with nothing special in
it (`Path.Plain`) is its place, name by name from where it starts (`FileTree.place`), unless a file
stands in the way. So the operations need not be followed step by step: looking such a path up is
looking at its place (`lookup_plain`), making its directory makes every prefix of its place one and
changes nothing else (`makeDirs_plain`), and a file that is written after that stands at the place
(`write_plain`).
-/

namespace BindingIndex

/-- The system takes the path as it is, nothing in it is too long, and no name is a step up. -/
structure Path.Plain (p : Path) : Prop where
  passable : p.Passable
  short : Text.Utf8.size p.toText < FileTree.maxPath
  names : ∀ n ∈ p.names, n ≠ ".." ∧ Text.Utf8.size n ≤ FileTree.maxName

theorem Path.Plain.parent {p : Path} (h : p.Plain) : p.parent.Plain := by
  refine ⟨h.passable.parent, ?_, fun n hn => h.names n (List.dropLast_subset _ hn)⟩
  have hle := size_toText_parent_le p
  have hshort := h.short
  have hone : 1 < FileTree.maxPath := by decide
  omega

namespace FileTree

open Text.Utf8

variable {t t₁ : FileTree} {p : Path} {loc : Location}

/-- What leads to an item is a directory. -/
def WellFormed (t : FileTree) : Prop :=
  ∀ l name item, t.get? (l ++ [name]) = some item → t.get? l = some .dir

/-- Where a path leads if every name of it is one step down. -/
def place (t : FileTree) (p : Path) : Location :=
  t.origin p ++ p.names.map fileName

/-- Neither at a location nor above it stands a file. -/
def Open (t : FileTree) (loc : Location) : Prop :=
  ∀ l, l <+: loc → ∀ bytes, t.get? l ≠ some (.file bytes)

/-- The tree `t'` is `t` with directories at a location and above it. -/
structure Opens (loc : Location) (t t' : FileTree) : Prop where
  current : t'.current = t.current
  get? : ∀ l, t'.get? l = if l <+: loc then some .dir else t.get? l

theorem WellFormed.dir_of_append (h : WellFormed t) {l rest : Location} {name : Name}
    {item : Item} (hi : t.get? (l ++ name :: rest) = some item) : t.get? l = some .dir := by
  induction rest generalizing l name with
  | nil => exact h l name item hi
  | cons next rest ih =>
    rw [List.append_cons l name] at hi
    exact h l name .dir (ih hi)

theorem WellFormed.dir_of_isPrefix (h : WellFormed t) {l : Location}
    (hdir : t.get? loc = some .dir) (hl : l <+: loc) : t.get? l = some .dir := by
  obtain ⟨rest, rfl⟩ := hl
  cases rest with
  | nil => rwa [List.append_nil] at hdir
  | cons name rest => exact h.dir_of_append hdir

theorem Open.mono {l : Location} (h : Open t loc) (hl : l <+: loc) : Open t l :=
  fun m hm => h m (hm.trans hl)

theorem Open.none_or_dir (h : Open t loc) : t.get? loc = none ∨ t.get? loc = some .dir := by
  cases hg : t.get? loc with
  | none => exact .inl rfl
  | some item =>
    cases item with
    | dir => exact .inr rfl
    | file bytes => exact absurd hg (h loc (List.prefix_refl _) bytes)

theorem get?_origin (t : FileTree) (p : Path) {l : Location} (h : l <+: t.origin p) :
    t.get? l = some .dir := by
  rw [origin] at h
  rw [get?, if_pos]
  rw [List.isPrefixOf_iff_prefix]
  split at h
  · rw [List.prefix_nil.1 h]
    exact List.nil_prefix
  · exact h

/-! ## Opened locations -/

namespace Opens

theorem place_eq (h : Opens loc t t₁) (p : Path) : t₁.place p = t.place p := by
  rw [place, place, origin, origin, h.current]

theorem get?_self (h : Opens loc t t₁) : t₁.get? loc = some .dir := by
  rw [h.get?, if_pos (List.prefix_refl _)]

theorem wellFormed (h : Opens loc t t₁) (hwf : WellFormed t) : WellFormed t₁ := by
  intro l name item hi
  rw [h.get?] at hi ⊢
  split
  · rfl
  · rename_i hl
    rw [if_neg fun hn => hl ((List.prefix_append l [name]).trans hn)] at hi
    exact hwf l name item hi

theorem isOpen {l : Location} (h : Opens loc t t₁) (ho : Open t l) : Open t₁ l := by
  intro m hm bytes hf
  rw [h.get?] at hf
  split at hf
  · cases hf
  · exact ho m hm bytes hf

theorem refl (hwf : WellFormed t) (hdir : t.get? loc = some .dir) : Opens loc t t := by
  refine ⟨rfl, fun l => ?_⟩
  split
  · rename_i hl
    exact hwf.dir_of_isPrefix hdir hl
  · rfl

theorem trans {l : Location} {t₂ : FileTree} (h : Opens l t t₁) (h' : Opens loc t₁ t₂)
    (hl : l <+: loc) : Opens loc t t₂ := by
  refine ⟨h'.current.trans h.current, fun m => ?_⟩
  rw [h'.get?, h.get?]
  split
  · rfl
  · rename_i hm
    exact if_neg fun hml => hm (hml.trans hl)

end Opens

/-! ## Following a plain path -/

theorem walk_plain (hwf : WellFormed t) {names : List Text}
    (hn : ∀ n ∈ names, n ≠ ".." ∧ size n ≤ maxName)
    (ho : ∀ (init : List Text) (name : Text) (rest : List Text), names = init ++ name :: rest →
      ∀ bytes, t.get? (loc ++ init.map fileName) ≠ some (.file bytes)) :
    t.walk loc names = .ok (loc ++ names.map fileName) ∨
      (t.walk loc names = .error .notFound ∧ t.get? (loc ++ names.map fileName) = none) := by
  induction names generalizing loc with
  | nil => exact .inl (by rw [walk, List.map_nil, List.append_nil])
  | cons name rest ih =>
    rw [List.map_cons]
    cases hg : t.get? loc with
    | none =>
      refine .inr ⟨by rw [walk, hg], ?_⟩
      cases hi : t.get? (loc ++ fileName name :: rest.map fileName) with
      | none => rfl
      | some item =>
        rw [hwf.dir_of_append hi] at hg
        cases hg
    | some item =>
      cases item with
      | file bytes =>
        have h := ho [] name rest rfl bytes
        rw [List.map_nil, List.append_nil] at h
        exact absurd hg h
      | dir =>
        obtain ⟨hup, hlen⟩ := hn name (.head _)
        have hstep : t.walk loc (name :: rest) = t.walk (loc ++ [fileName name]) rest := by
          rw [walk, hg]
          dsimp only
          rw [if_neg hup, if_neg (Nat.not_lt.2 hlen)]
        rw [hstep, List.append_cons loc (fileName name) (rest.map fileName)]
        refine ih (fun n h => hn n (.tail _ h)) fun init next more he bytes => ?_
        have h := ho (name :: init) next more (congrArg (name :: ·) he) bytes
        rwa [List.map_cons, List.append_cons] at h

theorem eq_of_walk {names : List Text} (hup : (".." : Text) ∉ names) {l : Location}
    (h : t.walk l names = .ok loc) : loc = l ++ names.map fileName := by
  induction names generalizing l with
  | nil =>
    cases h
    exact (List.append_nil _).symm
  | cons name rest ih =>
    rw [List.mem_cons, not_or] at hup
    obtain ⟨-, ⟨hname, -⟩ | ⟨-, -, hrest⟩⟩ := walk_cons_ok_iff.1 h
    · exact absurd hname.symm hup.1
    · rw [ih hup.2 hrest, List.map_cons, List.append_assoc]
      rfl

theorem walk_of_item (hwf : WellFormed t) {item : Item} (hi : t.get? loc = some item)
    {names : List Text} (hup : (".." : Text) ∉ names) {l : Location}
    (h : t₁.walk l names = .ok loc) : t.walk l names = .ok loc := by
  induction names generalizing l with
  | nil => exact h
  | cons name rest ih =>
    have hplace := eq_of_walk hup h
    rw [List.mem_cons, not_or] at hup
    obtain ⟨-, ⟨hname, -⟩ | ⟨hname, hlen, hrest⟩⟩ := walk_cons_ok_iff.1 h
    · exact absurd hname.symm hup.1
    · rw [hplace, List.map_cons] at hi
      exact walk_cons_ok_iff.2 ⟨hwf.dir_of_append hi, .inr ⟨hname, hlen, ih hup.2 hrest⟩⟩

theorem exists?_of_item (hwf : WellFormed t) (hp : p.Passable) (hup : (".." : Text) ∉ p.names)
    (hcurrent : t₁.current = t.current) (h : t₁.locate p = .ok loc) {item : Item}
    (hi : t.get? loc = some item) : t.exists? p = .ok true := by
  obtain ⟨hlen, hwalk⟩ := locate_ok_iff.1 h
  rw [origin, hcurrent] at hwalk
  have hlook : t.lookup p = .ok item :=
    lookup_ok_iff.2 ⟨loc, locate_ok_iff.2 ⟨hlen, walk_of_item hwf hi hup hwalk⟩, hi⟩
  rw [exists?, FileError.barred?_eq_none_iff.2 hp, hlook]

theorem place_parent {name : Text} {init : List Text} (hn : p.names = init ++ [name]) :
    t.place p.parent = t.origin p ++ init.map fileName ∧
      t.place p = t.place p.parent ++ [fileName name] := by
  have hparent : t.place p.parent = t.origin p ++ init.map fileName := by
    show t.origin p ++ p.names.dropLast.map fileName = _
    rw [hn, List.dropLast_concat]
  refine ⟨hparent, ?_⟩
  rw [hparent, place, hn, List.map_append, List.append_assoc]
  rfl

theorem walk_parent_plain (hwf : WellFormed t) (hp : p.Plain) {name : Text} {init : List Text}
    (hn : p.names = init ++ [name]) (ho : Open t (t.place p.parent)) :
    t.walk (t.origin p) init = .ok (t.place p.parent) ∨
      (t.walk (t.origin p) init = .error .notFound ∧ t.get? (t.place p.parent) = none) := by
  rw [(place_parent hn).1] at ho ⊢
  refine walk_plain hwf (fun n h => hp.names n (by simp [hn, h])) fun l _ _ he => ho _ ?_
  exact (List.prefix_append_right_inj _).2 (List.IsPrefix.map _ ⟨_, he.symm⟩)

theorem slot_plain (hwf : WellFormed t) (hp : p.Plain) {name : Text} {init : List Text}
    (hn : p.names = init ++ [name]) (ho : Open t (t.place p.parent)) :
    t.slot p = if t.get? (t.place p.parent) = some .dir then .ok (some (t.place p))
      else .error .notFound := by
  obtain ⟨hup, hlen⟩ := hp.names name (by simp [hn])
  rw [slot, if_neg (Nat.not_le.2 hp.short), hn, List.getLast?_concat, List.dropLast_concat]
  dsimp only
  rcases walk_parent_plain hwf hp hn ho with hw | ⟨hw, hg⟩
  · rw [hw]
    dsimp only
    rcases ho.none_or_dir with hg | hg
    · rw [hg]
      rfl
    · rw [hg]
      dsimp only
      rw [if_neg hup, if_neg (Nat.not_lt.2 hlen), if_pos rfl, (place_parent hn).2]
  · rw [hw, hg]
    rfl

/-- **Looking a plain path up** is looking at its place. -/
theorem lookup_plain (hwf : WellFormed t) (hp : p.Plain) (ho : Open t (t.place p.parent)) :
    t.lookup p = (t.get? (t.place p)).elim (.error .notFound) .ok := by
  have hwalk : t.walk (t.origin p) p.names = .ok (t.place p) ∨
      (t.walk (t.origin p) p.names = .error .notFound ∧ t.get? (t.place p) = none) := by
    refine walk_plain hwf hp.names fun init name rest he => ho _ ?_
    refine (List.prefix_append_right_inj _).2 (List.IsPrefix.map _ ?_)
    show init <+: p.names.dropLast
    rw [he, List.dropLast_append_of_ne_nil (List.cons_ne_nil _ _)]
    exact List.prefix_append _ _
  rw [lookup, locate, if_neg (Nat.not_le.2 hp.short)]
  rcases hwalk with hw | ⟨hw, hg⟩
  · rw [hw]
    dsimp only
    cases t.get? (t.place p) with
    | none => rfl
    | some item => rfl
  · rw [hw, hg]
    rfl

/-! ## Making directories -/

theorem lookup_of_no_names (hp : p.Plain) (hn : p.names = []) : t.lookup p = .ok .dir := by
  refine lookup_ok_iff.2 ⟨t.origin p, locate_ok_iff.2 ⟨hp.short, by rw [hn, walk]⟩, ?_⟩
  exact get?_origin t p (List.prefix_refl _)

theorem ensureDir_plain (hwf : WellFormed t) (hp : p.Plain) {name : Text} {init : List Text}
    (hn : p.names = init ++ [name]) (ho : Open t (t.place p))
    (hdir : t.get? (t.place p.parent) = some .dir) :
    ∃ t', t.ensureDir p = .ok t' ∧ Opens (t.place p) t t' := by
  have hplace := (place_parent (t := t) hn).2
  have hparent : Open t (t.place p.parent) := ho.mono (hplace ▸ List.prefix_append _ _)
  rcases ho.none_or_dir with hg | hg
  · have hslot : t.slot p = .ok (some (t.place p)) := by
      rw [slot_plain hwf hp hn hparent, if_pos hdir]
    have hmake : t.makeDir p = .ok (t.put (t.place p) .dir) :=
      makeDir_ok_iff.2 ⟨hp.passable, _, hslot, hg, rfl⟩
    refine ⟨t.put (t.place p) .dir, by rw [ensureDir, hmake], rfl, fun l => ?_⟩
    by_cases hl : t.place p = l
    · subst hl
      rw [get?_put_self _ (by simp [hg]), if_pos (List.prefix_refl _)]
    · rw [get?_put_of_ne _ hl]
      split
      · -- a proper prefix is above the parent, or the parent itself
        rename_i hpre
        rw [hplace, List.prefix_concat_iff, ← hplace] at hpre
        exact hwf.dir_of_isPrefix hdir (hpre.resolve_left fun he => hl he.symm)
      · rfl
  · have hlook : t.lookup p = .ok .dir := by
      rw [lookup_plain hwf hp hparent, hg, Option.elim_some]
    exact ⟨t, ensureDir_of_dir hp.passable hlook, .refl hwf hg⟩

theorem ensureDir_plain_missing (hwf : WellFormed t) (hp : p.Plain) {name : Text}
    {init : List Text} (hn : p.names = init ++ [name]) (ho : Open t (t.place p.parent))
    (hnone : t.get? (t.place p.parent) = none) :
    t.ensureDir p = .error (.system .notFound p) := by
  have hslot : t.slot p = .error .notFound := by
    rw [slot_plain hwf hp hn ho, if_neg (by simp [hnone])]
  have hmake : t.makeDir p = .error (.system .notFound p) := by
    rw [makeDir, FileError.barred?_eq_none_iff.2 hp.passable, hslot]
  rw [ensureDir, hmake]

theorem makeDirsUp_plain (root : PathRoot) (up : List Text) (hwf : WellFormed t)
    (hp : Path.Plain ⟨root, up.reverse⟩) (ho : Open t (t.place ⟨root, up.reverse⟩)) :
    ∃ t', t.makeDirsUp root up = (t', .ok ()) ∧ Opens (t.place ⟨root, up.reverse⟩) t t' := by
  induction up generalizing t with
  | nil =>
    have hplace : t.place ⟨root, []⟩ = t.origin ⟨root, []⟩ := List.append_nil _
    have hdir : t.get? (t.place ⟨root, []⟩) = some .dir :=
      hplace ▸ get?_origin t ⟨root, []⟩ (List.prefix_refl _)
    have hensure : t.ensureDir ⟨root, []⟩ = .ok t :=
      ensureDir_of_dir hp.passable (lookup_of_no_names hp rfl)
    exact ⟨t, by rw [makeDirsUp, hensure], .refl hwf hdir⟩
  | cons name up ih =>
    have hn : (name :: up).reverse = up.reverse ++ [name] := List.reverse_cons
    have hparent : Path.parent ⟨root, (name :: up).reverse⟩ = ⟨root, up.reverse⟩ := by
      rw [Path.parent, hn, List.dropLast_concat]
    have hplace := (place_parent (t := t) (p := ⟨root, (name :: up).reverse⟩) hn).2
    have hup : t.place ⟨root, up.reverse⟩ <+: t.place ⟨root, (name :: up).reverse⟩ := by
      rw [hplace, hparent]
      exact List.prefix_append _ _
    have hopen := ho.mono hup
    rcases hopen.none_or_dir with hg | hg
    · -- the parent is missing: it is made first, and then there is room for the last name
      have hmiss := ensureDir_plain_missing hwf hp hn (hparent ▸ hopen) (hparent ▸ hg)
      obtain ⟨t₁, hmade, hopens⟩ := ih hwf (hparent ▸ hp.parent) hopen
      obtain ⟨t₂, hlast, hopens'⟩ := ensureDir_plain (hopens.wellFormed hwf) hp hn
        (hopens.place_eq _ ▸ hopens.isOpen ho)
        (by rw [hparent, hopens.place_eq]; exact hopens.get?_self)
      rw [hopens.place_eq] at hopens'
      refine ⟨t₂, ?_, hopens.trans hopens' hup⟩
      simp only [makeDirsUp, hmiss, hmade, hlast]
    · obtain ⟨t₁, hmade, hopens⟩ := ensureDir_plain hwf hp hn ho (hparent ▸ hg)
      refine ⟨t₁, ?_, hopens⟩
      simp only [makeDirsUp, hmade]

/-- **Making a plain directory** and all that lead to it succeeds unless a file is in the way. Its
place and what is above it become directories, and nothing else changes. -/
theorem makeDirs_plain (hwf : WellFormed t) (hp : p.Plain) (ho : Open t (t.place p)) :
    ∃ t', t.makeDirs p = (t', .ok ()) ∧ Opens (t.place p) t t' := by
  have h := makeDirsUp_plain (t := t) p.root p.names.reverse hwf
  rw [List.reverse_reverse] at h
  exact h hp ho

/-! ## Placing a file -/

/-- The tree `t'` is `t` with a file at the place of `p` and directories above it. -/
structure Places (p : Path) (bytes : List UInt8) (t t' : FileTree) : Prop where
  current : t'.current = t.current
  get? : ∀ l, t'.get? l = if l = t.place p then some (.file bytes)
    else if l <+: t.place p.parent then some .dir else t.get? l

theorem Places.refl {bytes : List UInt8} (hwf : WellFormed t) {name : Text} {init : List Text}
    (hn : p.names = init ++ [name]) (hg : t.get? (t.place p) = some (.file bytes)) :
    Places p bytes t t := by
  have hdir : t.get? (t.place p.parent) = some .dir :=
    hwf _ (fileName name) _ ((place_parent hn).2 ▸ hg)
  refine ⟨rfl, fun l => ?_⟩
  split
  · rename_i hl
    rw [hl, hg]
  · split
    · rename_i hl
      exact hwf.dir_of_isPrefix hdir hl
    · rfl

/-- **Writing a plain path**, once its directory is made, places the file. -/
theorem write_plain (bytes : List UInt8) (hwf : WellFormed t) (hp : p.Plain) {name : Text}
    {init : List Text} (hn : p.names = init ++ [name]) (ho : Open t (t.place p.parent))
    (hfree : t.get? (t.place p) ≠ some .dir) :
    ∃ t₁ t₂, t.makeDirs p.parent = (t₁, .ok ()) ∧ t₁.write p bytes = .ok t₂ ∧
      Places p bytes t t₂ := by
  obtain ⟨t₁, hmade, hopens⟩ := makeDirs_plain hwf hp.parent ho
  have hnot : ¬ t.place p <+: t.place p.parent := fun h => by
    have hlen := h.length_le
    rw [(place_parent hn).2, List.length_append, List.length_singleton] at hlen
    omega
  have hfree₁ : t₁.get? (t.place p) ≠ some .dir := by
    rwa [hopens.get?, if_neg hnot]
  have hslot : t₁.slot p = .ok (some (t.place p)) := by
    rw [slot_plain (hopens.wellFormed hwf) hp hn (hopens.place_eq _ ▸ hopens.isOpen ho),
      hopens.place_eq, hopens.place_eq, if_pos hopens.get?_self]
  refine ⟨t₁, _, hmade, write_ok_iff.2 ⟨hp.passable, _, hslot, hfree₁, rfl⟩, hopens.current,
    fun l => ?_⟩
  split
  · rename_i hl
    rw [hl, get?_put_self _ hfree₁]
  · rename_i hl
    rw [get?_put_of_ne _ (Ne.symm hl), hopens.get?]

end FileTree

end BindingIndex
