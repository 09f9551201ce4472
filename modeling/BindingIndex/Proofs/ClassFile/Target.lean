import BindingIndex.ClassFile
import BindingIndex.Proofs.Text.Splitting

/-!
# The target of a package

For a package name without a slash every segment is a name or nothing. So the target is the output
directory, the segments that are not empty (`packageDirs`), and the name of the class file:
`target_of_no_slash`. No segment holds a dot, and for that reason none is a step up or the name of a
class file (`fileName_not_mem_packageDirs`).
-/

namespace BindingIndex.ClassFile

/-- The directories of a package below the output root: its segments, without the empty ones. -/
def packageDirs (packageName : Text) : List Text :=
  (packageName.splitOn (.char '.')).filter (· ≠ [])

def fileName : Text := "BR.java"

variable {packageName : Text}

theorem mem_packageDirs_iff {n : Text} :
    n ∈ packageDirs packageName ↔ n ∈ packageName.splitOn (.char '.') ∧ n ≠ [] := by
  rw [packageDirs, List.mem_filter, decide_eq_true_eq]

theorem dot_not_mem_of_mem_packageDirs {n : Text} (h : n ∈ packageDirs packageName) :
    .char '.' ∉ n := Text.not_mem_of_mem_splitOn (mem_packageDirs_iff.1 h).1

theorem fileName_not_mem_packageDirs : fileName ∉ packageDirs packageName := fun h =>
  dot_not_mem_of_mem_packageDirs h (by decide)

theorem up_not_mem_packageDirs : (".." : Text) ∉ packageDirs packageName := fun h =>
  dot_not_mem_of_mem_packageDirs h (by decide)

theorem mem_of_mem_packageDirs {n : Text} (h : n ∈ packageDirs packageName) {c : CodePoint}
    (hc : c ∈ n) : c ∈ packageName :=
  Text.mem_of_mem_splitOn (mem_packageDirs_iff.1 h).1 c hc

theorem ofText_of_no_slash {t : Text} (h : .char '/' ∉ t) (hdot : .char '.' ∉ t) :
    Path.ofText t = ⟨.relative, if t = [] then [] else [t]⟩ := by
  have hroot : Path.rootOf t = .relative := by
    cases t with
    | nil => rfl
    | cons c t =>
      have hc : c ≠ .char '/' := fun he => h (he ▸ .head _)
      simp [Path.rootOf, hc]
  have hcur : t ≠ "." := by
    rintro rfl
    exact hdot (.head _)
  rw [Path.ofText, hroot, Path.components, List.splitOn_eq_singleton h]
  by_cases ht : t = []
  · simp [ht]
  · simp [ht, hcur]

theorem foldl_join_relative {qs : List Path} (h : ∀ q ∈ qs, q.root = .relative) (p : Path) :
    qs.foldl Path.join p = ⟨p.root, p.names ++ qs.flatMap Path.names⟩ := by
  induction qs generalizing p with
  | nil => simp
  | cons q qs ih =>
    have hq : p.join q = ⟨p.root, p.names ++ q.names⟩ := by
      rw [Path.join, Path.isAbsolute, h q (.head _)]
      rfl
    rw [List.foldl_cons, hq, ih fun r hr => h r (.tail _ hr)]
    simp

/-- **The target of a package** whose name has no slash. -/
theorem target_of_no_slash (outputDir : Path) (h : .char '/' ∉ packageName) :
    target outputDir packageName =
      ⟨outputDir.root, outputDir.names ++ packageDirs packageName ++ [fileName]⟩ := by
  have hpiece : ∀ piece ∈ packageName.splitOn (.char '.'),
      Path.ofText piece = ⟨.relative, if piece = [] then [] else [piece]⟩ := fun piece hp =>
    ofText_of_no_slash (fun hc => h (Text.mem_of_mem_splitOn hp _ hc))
      (Text.not_mem_of_mem_splitOn hp)
  have hnames : (segments packageName).flatMap Path.names = packageDirs packageName := by
    rw [segments, packageDirs, List.flatMap_map]
    generalize packageName.splitOn (.char '.') = pieces at hpiece
    induction pieces with
    | nil => rfl
    | cons piece pieces ih =>
      rw [List.flatMap_cons, hpiece piece (.head _), ih fun q hq => hpiece q (.tail _ hq)]
      by_cases hne : piece = []
      · simp [hne]
      · simp [hne]
  have hrel : ∀ q ∈ segments packageName, q.root = .relative := by
    intro q hq
    obtain ⟨piece, hp, rfl⟩ := List.mem_map.1 hq
    rw [hpiece piece hp]
  rw [target, foldl_join_relative hrel, hnames]
  rfl

end BindingIndex.ClassFile
