import BindingIndex.Proofs.ClassFile.Frame
import BindingIndex.Proofs.ClassFile.Target
import Mathlib.Data.List.Induction

/-!
# Packages that stay below the output root

The segments of a package are joined to the output root as paths. No segment holds a dot, so none
steps up (`up_not_mem_components`), and as long as all of them are relative the target is below the
root. A segment that starts with a slash is a path of its own: joining it drops the root and all
that came before (`foldl_join_cases`).

So a package is either confined, for every output root, and then a write changes no file elsewhere
(`changesFilesBelow_write`), or its target does not depend on the output root at all:
`confined_or_rooted`.
-/

namespace BindingIndex

theorem Path.OnTheWay.size_toText_le {q p : Path} (h : q.OnTheWay p) :
    Text.Utf8.size q.toText ≤ max 1 (Text.Utf8.size p.toText) := by
  obtain ⟨root, names⟩ := p
  obtain ⟨rfl, more, rfl⟩ := h
  induction more using List.reverseRecOn with
  | nil => simp
  | append_singleton more name ih =>
    have hparent : Path.parent ⟨q.root, q.names ++ (more ++ [name])⟩ =
        ⟨q.root, q.names ++ more⟩ := by
      rw [parent, ← List.append_assoc, List.dropLast_concat]
    have hle := size_toText_parent_le ⟨q.root, q.names ++ (more ++ [name])⟩
    rw [hparent] at hle
    omega

namespace FileTree

variable {t t' : FileTree}

theorem walk_down {names : List Text} (hup : ↑".." ∉ names) {loc r : Location}
    (h : t.walk loc names = .ok r) : r = loc ++ names.map Text.Utf8.fileName := by
  induction names generalizing loc with
  | nil =>
    cases h
    simp
  | cons name rest ih =>
    simp only [List.mem_cons, not_or] at hup
    obtain ⟨-, ⟨rfl, -⟩ | ⟨-, -, hrest⟩⟩ := walk_cons_ok_iff.1 h
    · exact absurd rfl hup.1
    · rw [ih hup.2 hrest, List.append_assoc, List.singleton_append, List.map_cons]

theorem locate_below {dir : Path} {names : List Text} (hup : ↑".." ∉ names) {loc : Location}
    (h : t.locate ⟨dir.root, dir.names ++ names⟩ = .ok loc) :
    ∃ base, t.locate dir = .ok base ∧ loc = base ++ names.map Text.Utf8.fileName := by
  obtain ⟨hsize, hwalk⟩ := locate_ok_iff.1 h
  obtain ⟨base, hdir, hrest⟩ := walk_append.1 hwalk
  have hway : dir.OnTheWay ⟨dir.root, dir.names ++ names⟩ := ⟨rfl, List.prefix_append _ _⟩
  have hle := hway.size_toText_le
  have hone : 1 < maxPath := by decide
  exact ⟨base, locate_ok_iff.2 ⟨by omega, hdir⟩, walk_down hup hrest⟩

/-- Every file that was created, altered or removed is below the directory of the path. -/
def ChangesFilesBelow (dir : Path) (t t' : FileTree) : Prop :=
  ∀ loc bytes, (t.get? loc = some (.file bytes) ∨ t'.get? loc = some (.file bytes)) →
    t'.get? loc ≠ t.get? loc →
    ∃ base names, t'.locate dir = .ok base ∧ names ≠ [] ∧ loc = base ++ names

end FileTree

namespace ClassFile

open FileTree (ChangesFilesBelow)

/-! ## Segments -/

/-- A segment of the package starts with a slash. -/
def Rooted (packageName : Text) : Prop :=
  ∃ piece ∈ packageName.splitOn (.char '.'), piece.head? = some (.char '/')

theorem isAbsolute_ofText_iff (piece : Text) :
    (Path.ofText piece).isAbsolute = true ↔ piece.head? = some (.char '/') := by
  rw [Path.ofText, Path.isAbsolute, decide_eq_true_eq]
  cases piece with
  | nil => simp [Path.rootOf]
  | cons c piece =>
    by_cases hc : c = .char '/'
    · subst hc
      simp only [List.head?_cons, iff_true]
      unfold Path.rootOf
      split <;> simp_all
    · simp [Path.rootOf, hc]

theorem up_not_mem_components {t : Text} (h : .char '.' ∉ t) : ↑".." ∉ Path.components t :=
  fun hup => h (Text.mem_of_mem_splitOn (List.mem_filter.1 hup).1 _ (.head _))

theorem up_not_mem_segments {packageName : Text} {q : Path} (hq : q ∈ segments packageName) :
    ↑".." ∉ q.names := by
  obtain ⟨piece, hp, rfl⟩ := List.mem_map.1 hq
  exact up_not_mem_components (Text.not_mem_of_mem_splitOn hp)

theorem rooted_iff {packageName : Text} :
    Rooted packageName ↔ ∃ q ∈ segments packageName, q.isAbsolute = true := by
  constructor
  · rintro ⟨piece, hp, hslash⟩
    exact ⟨_, List.mem_map_of_mem hp, (isAbsolute_ofText_iff piece).2 hslash⟩
  · rintro ⟨q, hq, habs⟩
    obtain ⟨piece, hp, rfl⟩ := List.mem_map.1 hq
    exact ⟨piece, hp, (isAbsolute_ofText_iff piece).1 habs⟩

/-! ## Joining -/

/-- Joining paths to a root: either all of them are relative, or the last one that is not makes the
root irrelevant, and the names of the result are names of theirs. -/
theorem foldl_join_cases (qs : List Path) :
    (∀ q ∈ qs, q.root = .relative) ∨
    ((∃ q ∈ qs, q.isAbsolute = true) ∧ ∃ r : Path, r.isAbsolute = true ∧
      (∀ n ∈ r.names, ∃ q ∈ qs, n ∈ q.names) ∧ ∀ dir, qs.foldl Path.join dir = r) := by
  induction qs with
  | nil => exact .inl fun q hq => nomatch hq
  | cons q qs ih =>
    rcases ih with hrel | ⟨⟨a, ha, habs⟩, r, hr, hnames, hjoin⟩
    · by_cases hq : q.root = .relative
      · exact .inl (List.forall_mem_cons.2 ⟨hq, hrel⟩)
      · -- this is the last path with a root of its own
        have habs : q.isAbsolute = true := decide_eq_true hq
        refine .inr ⟨⟨q, .head _, habs⟩, ⟨q.root, q.names ++ qs.flatMap Path.names⟩, habs, ?_, ?_⟩
        · intro n hn
          rcases List.mem_append.1 hn with hn | hn
          · exact ⟨q, .head _, hn⟩
          · obtain ⟨p, hp, hnp⟩ := List.mem_flatMap.1 hn
            exact ⟨p, .tail _ hp, hnp⟩
        · intro dir
          rw [List.foldl_cons, Path.join, if_pos habs, foldl_join_relative hrel]
    · refine .inr ⟨⟨a, .tail _ ha, habs⟩, r, hr, fun n hn => ?_, fun dir => hjoin (dir.join q)⟩
      obtain ⟨p, hp, hnp⟩ := hnames n hn
      exact ⟨p, .tail _ hp, hnp⟩

/-! ## Confinement -/

/-- The path goes on below a directory, without a step up, to a class file. -/
def Confined (dir p : Path) : Prop :=
  ∃ dirs : List Text, ↑".." ∉ dirs ∧ p = ⟨dir.root, dir.names ++ dirs ++ [fileName]⟩

theorem changesFilesBelow_write {outputDir : Path} {packageName : Text}
    (h : Confined outputDir (target outputDir packageName)) (t : FileTree) (source : Text) :
    ChangesFilesBelow outputDir t (write t outputDir packageName source).1 := by
  intro l bytes hfile hne
  rcases effect_of_write t outputDir packageName source with hdirs | ⟨bytes', loc, hputs⟩
  · exact absurd (hdirs.eq_of_file hfile) hne
  · obtain rfl := hputs.eq_of_changed hfile hne
    obtain ⟨dirs, hup, htarget⟩ := h
    have hloc := hputs.located
    rw [htarget, List.append_assoc] at hloc
    have hup' : ↑".." ∉ dirs ++ [fileName] := fun hmem =>
      (List.mem_append.1 hmem).elim hup (by decide)
    obtain ⟨base, hbase, rfl⟩ := FileTree.locate_below hup' hloc
    exact ⟨base, (dirs ++ [fileName]).map Text.Utf8.fileName, hbase, by simp, rfl⟩

/-- **Which packages stay below the output root.** If no segment of the package starts with a slash,
the target is, for every output root, the root itself, then names none of which is a step up, then
the name of a class file; a write on any tree, however it ends, changes files below the output root
only. If a segment does, the target is one path for every output root, with a root of its own: it
ends in the name of a class file and has no step up, but it is not below any output root that is
relative. -/
theorem confined_or_rooted (packageName : Text) :
    (¬ Rooted packageName ∧ ∀ outputDir,
      Confined outputDir (target outputDir packageName) ∧
      ∀ t source, ChangesFilesBelow outputDir t (write t outputDir packageName source).1) ∨
    (Rooted packageName ∧ ∃ p : Path, p.isAbsolute = true ∧ ↑".." ∉ p.names ∧
      p.names.getLast? = some fileName ∧
      ∀ outputDir, target outputDir packageName = p ∧
        (outputDir.isAbsolute = false → ¬ Confined outputDir p)) := by
  rcases foldl_join_cases (segments packageName) with hrel | ⟨habs, r, hr, hnames, hjoin⟩
  · refine .inl ⟨fun hrooted => ?_, fun outputDir => ?_⟩
    · obtain ⟨q, hq, habs⟩ := rooted_iff.1 hrooted
      exact of_decide_eq_true habs (hrel q hq)
    · have hconfined : Confined outputDir (target outputDir packageName) := by
        refine ⟨(segments packageName).flatMap Path.names, fun hup => ?_, ?_⟩
        · obtain ⟨q, hq, hqup⟩ := List.mem_flatMap.1 hup
          exact up_not_mem_segments hq hqup
        · rw [target, foldl_join_relative hrel]
          rfl
      exact ⟨hconfined, changesFilesBelow_write hconfined⟩
  · have htarget : ∀ outputDir, target outputDir packageName = r.child fileName := by
      intro outputDir
      rw [target, hjoin]
      rfl
    refine .inr ⟨rooted_iff.2 habs, r.child fileName, hr, fun hup => ?_, List.getLast?_concat,
      fun outputDir => ⟨htarget outputDir, ?_⟩⟩
    · rcases List.mem_append.1 hup with hup | hup
      · obtain ⟨q, hq, hqup⟩ := hnames _ hup
        exact up_not_mem_segments hq hqup
      · exact absurd (List.mem_singleton.1 hup) (by decide)
    · rintro hdir ⟨dirs, -, hp⟩
      have hroot : (r.child fileName).root = outputDir.root := by rw [hp]
      rw [Path.child] at hroot
      rw [Path.isAbsolute, hroot] at hr
      rw [Path.isAbsolute, hr] at hdir
      cases hdir

/-- The package `/etc` leaves the output root, and a write puts its file elsewhere. -/
theorem rooted_package_leaves :
    ("/etc" : Text) ≠ [] ∧ target (.ofText "out") "/etc" = .ofText "/etc/BR.java" ∧
    ¬ Confined (.ofText "out") (target (.ofText "out") "/etc") ∧
    (write ⟨["work"], []⟩ (.ofText "out") "/etc" "").1.get? ["etc", "BR.java"] =
      some (.file []) ∧
    ¬ ChangesFilesBelow (.ofText "out") ⟨["work"], []⟩
      (write ⟨["work"], []⟩ (.ofText "out") "/etc" "").1 := by
  have hput : (write ⟨["work"], []⟩ (.ofText "out") "/etc" "").1.get? ["etc", "BR.java"] =
      some (.file []) := by decide
  refine ⟨by decide, by decide, ?_, hput, fun h => ?_⟩
  · rintro ⟨dirs, -, hp⟩
    have hroot : (target (.ofText "out") "/etc").root ≠ .relative := by decide
    exact hroot (congrArg Path.root hp)
  · obtain ⟨base, names, hbase, -, hloc⟩ := h ["etc", "BR.java"] [] (.inr hput) (by decide)
    have hout : ((write ⟨["work"], []⟩ (.ofText "out") "/etc" "").1.locate
        (.ofText "out")).toOption = some (["work", "out"] : Location) := by decide
    rw [hbase] at hout
    cases hout
    exact absurd (List.cons.inj hloc).1 (by decide)

end ClassFile

end BindingIndex
