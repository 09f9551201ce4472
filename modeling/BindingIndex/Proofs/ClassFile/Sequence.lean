import BindingIndex.Proofs.ClassFile.Rewrite
import BindingIndex.Proofs.ClassFile.Target
import BindingIndex.Proofs.FileTree.Placement

/-!
# Many classes below one output directory

`Mirrors home outputDir requests t` says that the tree `t` is the map from packages to sources
that the requests describe: one class file for each list of package directories, with the source of
the last request for it, and no directories but those that lead there. The empty tree mirrors no
requests (`mirrors_empty`), a write keeps the tree a mirror of one request more (`Mirrors.write`),
and so does a sequence of them: `writeAll_mirrors`.

What makes this work is that no package directory has the name of a class file: a class file is
never above another one (`target_onTheWay_iff`), so it blocks no directory.
-/

namespace BindingIndex.ClassFile

/-- The source of a package that is to be written. -/
structure Request where
  packageName : String
  source : String

/-- Write one request after another, and what each write gave. -/
def writeAll (t : FileTree) (outputDir : Path) :
    List Request → FileTree × List (Except FileError Written)
  | [] => (t, [])
  | r :: rest =>
    let (t, answer) := write t outputDir r.packageName r.source
    let (t, answers) := writeAll t outputDir rest
    (t, answer :: answers)

def Request.dirs (r : Request) : List Text := packageDirs r.packageName

/-- The source of the last request for these package directories. -/
def lastSource (requests : List Request) (dirs : List Text) : Option String :=
  (requests.reverse.find? fun r => r.dirs = dirs).map Request.source

/-- The package can be written below the output directory: it holds neither a slash nor a NUL, and
its target is within the limits on names and paths. -/
structure Placeable (outputDir : Path) (packageName : String) : Prop where
  noSlash : '/' ∉ packageName.toList
  noNul : '\x00' ∉ packageName.toList
  short : Text.Utf8.size (target outputDir packageName).toText < FileTree.maxPath
  names : ∀ n ∈ (target outputDir packageName).names, Text.Utf8.size n ≤ FileTree.maxName

def dirLocation (home : Location) (outputDir : Path) (dirs : List Text) : Location :=
  home ++ (outputDir.names ++ dirs).map Text.Utf8.fileName

def fileLocation (home : Location) (outputDir : Path) (dirs : List Text) : Location :=
  dirLocation home outputDir dirs ++ [Text.Utf8.fileName fileName]

/-- The tree holds the sources that were asked for last, and nothing else. -/
structure Mirrors (home : Location) (outputDir : Path) (requests : List Request)
    (t : FileTree) : Prop where
  current : t.current = home
  files : ∀ l bytes, t.get? l = some (.file bytes) ↔ ∃ dirs source,
    lastSource requests dirs = some source ∧ l = fileLocation home outputDir dirs ∧
      bytes = Text.Utf8.encode source
  dirs : ∀ l, t.get? l = some .dir ↔
    l <+: home ∨ ∃ r ∈ requests, l <+: dirLocation home outputDir r.dirs

variable {home : Location} {outputDir : Path} {requests done : List Request} {r : Request}
  {t : FileTree}

/-! ## The last source -/

theorem lastSource_concat (requests : List Request) (r : Request) (dirs : List Text) :
    lastSource (requests ++ [r]) dirs =
      if r.dirs = dirs then some r.source else lastSource requests dirs := by
  rw [lastSource, List.reverse_append, List.reverse_singleton, List.singleton_append,
    List.find?_cons]
  by_cases h : r.dirs = dirs
  · simp [h]
  · simp [h, lastSource]

theorem exists_of_lastSource {dirs : List Text} {source : String}
    (h : lastSource requests dirs = some source) : ∃ r ∈ requests, r.dirs = dirs := by
  obtain ⟨r, hr, -⟩ := Option.map_eq_some_iff.1 h
  have hdirs : decide (r.dirs = dirs) = true :=
    List.find?_some (p := fun r : Request => decide (r.dirs = dirs)) hr
  exact ⟨r, List.mem_reverse.1 (List.mem_of_find?_eq_some hr), of_decide_eq_true hdirs⟩

/-! ## Locations of class files -/

theorem isUnicode_of_mem_dirs {n : Text} (h : n ∈ r.dirs) : n.IsUnicode := fun c hc =>
  Text.isUnicode_ofString r.packageName c (mem_of_mem_packageDirs h hc)

theorem isUnicode_of_lastSource {dirs : List Text} {source : String}
    (h : lastSource requests dirs = some source) : ∀ n ∈ dirs, n.IsUnicode := by
  obtain ⟨r, -, rfl⟩ := exists_of_lastSource h
  exact fun n hn => isUnicode_of_mem_dirs hn

theorem fileLocation_inj {dirs dirs' : List Text} (h : ∀ n ∈ dirs, n.IsUnicode)
    (h' : ∀ n ∈ dirs', n.IsUnicode) :
    fileLocation home outputDir dirs = fileLocation home outputDir dirs' ↔ dirs = dirs' := by
  refine ⟨fun he => ?_, fun he => he ▸ rfl⟩
  have hmap : dirs.map Text.Utf8.fileName = dirs'.map Text.Utf8.fileName := by
    simpa [fileLocation, dirLocation] using he
  exact Text.Utf8.map_fileName_inj h h' hmap

theorem fileLocation_not_isPrefix (dirs : List Text) (r : Request) :
    ¬ fileLocation home outputDir dirs <+: dirLocation home outputDir r.dirs := by
  rw [fileLocation, dirLocation, dirLocation, List.map_append, List.map_append, List.append_assoc,
    List.append_assoc, List.prefix_append_right_inj, List.prefix_append_right_inj]
  intro h
  obtain ⟨n, hn, hname⟩ := List.mem_map.1 (h.subset (List.mem_append_right _ (.head _)))
  have hfile := Text.Utf8.fileName_inj (isUnicode_of_mem_dirs hn) (Text.isUnicode_ofString _) hname
  exact fileName_not_mem_packageDirs (hfile ▸ hn)

theorem fileLocation_not_isPrefix_home (dirs : List Text) :
    ¬ fileLocation home outputDir dirs <+: home := fun h => by
  have hlen := h.length_le
  simp only [fileLocation, dirLocation, List.length_append, List.length_singleton] at hlen
  omega

/-- **No class file is in the way of another one.** -/
theorem target_onTheWay_iff {package₁ package₂ : Text} (h₁ : .char '/' ∉ package₁)
    (h₂ : .char '/' ∉ package₂) :
    (target outputDir package₁).OnTheWay (target outputDir package₂) ↔
      packageDirs package₁ = packageDirs package₂ := by
  rw [target_of_no_slash outputDir h₁, target_of_no_slash outputDir h₂]
  constructor
  · rintro ⟨-, hnames⟩
    rw [List.append_assoc, List.append_assoc, List.prefix_append_right_inj,
      List.prefix_concat_iff] at hnames
    rcases hnames with he | hpre
    · exact (List.append_inj' he rfl).1
    · exact absurd (hpre.subset (List.mem_append_right _ (.head _))) fileName_not_mem_packageDirs
  · intro he
    rw [he]
    exact .refl _

/-! ## One write -/

theorem isCurrent_plain {path : Path} (source : String) (hwf : t.WellFormed) (hp : path.Plain)
    (ho : t.Open (t.place path.parent)) (hfree : t.get? (t.place path) ≠ some .dir) :
    isCurrent t path source =
      .ok (decide (t.get? (t.place path) = some (.file (Text.Utf8.encode source)))) := by
  have hlook := FileTree.lookup_plain hwf hp ho
  cases hg : t.get? (t.place path) with
  | none =>
    rw [hg] at hlook
    rw [isCurrent, FileTree.exists?, FileError.barred?_eq_none_iff.2 hp.passable, hlook]
    rfl
  | some item =>
    cases item with
    | dir => exact absurd hg hfree
    | file old =>
      rw [hg] at hlook
      rw [isCurrent_of_read (FileTree.read_ok_iff.2 ⟨hp.passable, hlook⟩)
        (Text.Utf8.encodeText_ofString source)]
      simp

theorem write_plain {packageName : Text} (source : String) (hwf : t.WellFormed)
    (hp : (target outputDir packageName).Plain)
    (ho : t.Open (t.place (target outputDir packageName).parent))
    (hfree : t.get? (t.place (target outputDir packageName)) ≠ some .dir) :
    ∃ t', write t outputDir packageName source = (t', .ok ⟨target outputDir packageName,
        decide (t.get? (t.place (target outputDir packageName)) ≠
          some (.file (Text.Utf8.encode source)))⟩) ∧
      FileTree.Places (target outputDir packageName) (Text.Utf8.encode source) t t' := by
  obtain ⟨init, name, hn, -⟩ := target_names outputDir packageName
  have hcheck := isCurrent_plain source hwf hp ho hfree
  by_cases hcur : t.get? (t.place (target outputDir packageName)) =
      some (.file (Text.Utf8.encode source))
  · rw [decide_eq_true hcur] at hcheck
    refine ⟨t, ?_, .refl hwf hn hcur⟩
    rw [write, hcheck, decide_eq_false (not_not_intro hcur)]
  · rw [decide_eq_false hcur] at hcheck
    obtain ⟨t₁, t₂, hmade, hput, hplaces⟩ :=
      FileTree.write_plain (Text.Utf8.encode source) hwf hp hn ho hfree
    have htext := writeText_ok_iff.2 ⟨_, Text.Utf8.encodeText_ofString source, hput⟩
    refine ⟨t₂, ?_, hplaces⟩
    rw [write, hcheck, decide_eq_true hcur]
    simp only [hmade, htext]

/-! ## Mirrors -/

namespace Mirrors

theorem wellFormed (h : Mirrors home outputDir requests t) : t.WellFormed := by
  intro l name item hi
  rw [h.dirs]
  cases item with
  | file bytes =>
    obtain ⟨dirs, source, hlast, hl, -⟩ := (h.files _ _).1 hi
    obtain ⟨r, hr, rfl⟩ := exists_of_lastSource hlast
    exact .inr ⟨r, hr, (List.append_inj' hl rfl).1 ▸ List.prefix_refl _⟩
  | dir =>
    have hup : l <+: l ++ [name] := List.prefix_append _ _
    rcases (h.dirs _).1 hi with hl | ⟨r, hr, hl⟩
    · exact .inl (hup.trans hl)
    · exact .inr ⟨r, hr, hup.trans hl⟩

theorem isOpen (h : Mirrors home outputDir requests t) (r : Request) :
    t.Open (dirLocation home outputDir r.dirs) := by
  intro l hl bytes hf
  obtain ⟨dirs, source, -, rfl, -⟩ := (h.files _ _).1 hf
  exact fileLocation_not_isPrefix dirs r hl

theorem free (h : Mirrors home outputDir requests t) (dirs : List Text) :
    t.get? (fileLocation home outputDir dirs) ≠ some .dir := by
  rw [Ne, h.dirs]
  rintro (hl | ⟨r, -, hl⟩)
  · exact fileLocation_not_isPrefix_home dirs hl
  · exact fileLocation_not_isPrefix dirs r hl

theorem file_iff (h : Mirrors home outputDir requests t) {dirs : List Text}
    (hdirs : ∀ n ∈ dirs, n.IsUnicode) (source : String) :
    t.get? (fileLocation home outputDir dirs) = some (.file (Text.Utf8.encode source)) ↔
      lastSource requests dirs = some source := by
  rw [h.files]
  constructor
  · rintro ⟨dirs', source', hlast, hl, hb⟩
    rw [(fileLocation_inj hdirs (isUnicode_of_lastSource hlast)).1 hl,
      Text.Utf8.encode_injective hb, hlast]
  · exact fun hlast => ⟨dirs, source, hlast, rfl, rfl⟩

theorem concat {t' : FileTree} {path : Path} (h : Mirrors home outputDir done t)
    (hplace : t.place path = fileLocation home outputDir r.dirs)
    (hparent : t.place path.parent = dirLocation home outputDir r.dirs)
    (hp : FileTree.Places path (Text.Utf8.encode r.source) t t') :
    Mirrors home outputDir (done ++ [r]) t' := by
  have hget := hp.get?
  rw [hplace, hparent] at hget
  refine ⟨hp.current.trans h.current, fun l bytes => ?_, fun l => ?_⟩
  · rw [hget]
    by_cases hl : l = fileLocation home outputDir r.dirs
    · rw [if_pos hl, Option.some.injEq, Item.file.injEq]
      constructor
      · rintro rfl
        exact ⟨r.dirs, r.source, by rw [lastSource_concat, if_pos rfl], hl, rfl⟩
      · rintro ⟨dirs, source, hlast, hl', rfl⟩
        have hdirs := (fileLocation_inj (fun _ hn => isUnicode_of_mem_dirs hn)
          (isUnicode_of_lastSource hlast)).1 (hl.symm.trans hl')
        rw [lastSource_concat, if_pos hdirs, Option.some.injEq] at hlast
        rw [hlast]
    · -- elsewhere the files are those that were there, and the last sources too
      have hold : (∃ dirs source, lastSource (done ++ [r]) dirs = some source ∧
          l = fileLocation home outputDir dirs ∧ bytes = Text.Utf8.encode source) ↔
          t.get? l = some (.file bytes) := by
        rw [h.files]
        refine exists_congr fun dirs => exists_congr fun source => ?_
        refine and_congr_left fun ⟨hl', _⟩ => ?_
        rw [lastSource_concat, if_neg fun he : r.dirs = dirs => hl (he ▸ hl')]
      rw [if_neg hl, hold]
      split
      · rename_i hpre
        exact iff_of_false (by simp) (h.isOpen r l hpre bytes)
      · rfl
  · have hnew : (∃ r' ∈ done ++ [r], l <+: dirLocation home outputDir r'.dirs) ↔
        (∃ r' ∈ done, l <+: dirLocation home outputDir r'.dirs) ∨
          l <+: dirLocation home outputDir r.dirs := by
      simp only [List.mem_append, List.mem_singleton, or_and_right, exists_or, exists_eq_left]
    rw [hget, hnew, ← or_assoc, ← h.dirs]
    by_cases hl : l = fileLocation home outputDir r.dirs
    · rw [if_pos hl, hl]
      refine iff_of_false (by simp) ?_
      rintro (hd | hd)
      · exact h.free r.dirs hd
      · exact fileLocation_not_isPrefix r.dirs r hd
    · rw [if_neg hl]
      split
      · rename_i hpre
        exact iff_of_true rfl (.inr hpre)
      · rename_i hpre
        exact (or_iff_left hpre).symm

end Mirrors

theorem mirrors_empty (home : Location) (outputDir : Path) :
    Mirrors home outputDir [] ⟨home, []⟩ := by
  refine ⟨rfl, fun l bytes => ?_, fun l => ?_⟩
  · simp [FileTree.get?, FileTree.find, lastSource]
  · simp [FileTree.get?, FileTree.find]

/-! ## Sequences of writes -/

/-- The output directory is a relative path without steps up, and the system takes it as it is. -/
structure Descends (outputDir : Path) : Prop where
  relative : outputDir.root = .relative
  noUp : (".." : Text) ∉ outputDir.names
  passable : outputDir.Passable

theorem Placeable.plain (ho : Descends outputDir) {packageName : String}
    (h : Placeable outputDir packageName) : (target outputDir packageName).Plain := by
  have htarget := target_of_no_slash outputDir (mt Text.char_mem_ofString.1 h.noSlash)
  refine ⟨fun n hn => ?_, h.short, fun n hn => ⟨?_, h.names n hn⟩⟩
  · rw [htarget, List.mem_append, List.mem_append, List.mem_singleton] at hn
    rcases hn with (hn | hn) | rfl
    · exact ho.passable n hn
    · intro c hc
      have hmem := mem_of_mem_packageDirs hn hc
      cases c with
      | char c => exact decide_eq_true fun he => h.noNul (he ▸ Text.char_mem_ofString.1 hmem)
      | surrogate s => cases Text.isUnicode_ofString _ _ hmem
    · decide
  · rw [htarget, List.mem_append, List.mem_append, List.mem_singleton] at hn
    rcases hn with (hn | hn) | rfl
    · exact fun he => ho.noUp (he ▸ hn)
    · exact fun he => up_not_mem_packageDirs (he ▸ hn)
    · decide

theorem place_target (ho : Descends outputDir) (ht : t.current = home) {packageName : Text}
    (h : .char '/' ∉ packageName) :
    t.place (target outputDir packageName) =
        fileLocation home outputDir (packageDirs packageName) ∧
      t.place (target outputDir packageName).parent =
        dirLocation home outputDir (packageDirs packageName) := by
  rw [target_of_no_slash outputDir h]
  constructor
  · simp [FileTree.place, FileTree.origin, Path.isAbsolute, ho.relative, ht, fileLocation,
      dirLocation]
  · simp [FileTree.place, FileTree.origin, Path.isAbsolute, Path.parent, ho.relative, ht,
      dirLocation]

/-- **One write more** succeeds, reports a change unless its source was the last one, and leaves a
mirror of one request more. -/
theorem Mirrors.write (h : Mirrors home outputDir done t) (ho : Descends outputDir)
    (hr : Placeable outputDir r.packageName) :
    ∃ t', ClassFile.write t outputDir r.packageName r.source =
        (t', .ok ⟨target outputDir r.packageName,
          decide (lastSource done r.dirs ≠ some r.source)⟩) ∧
      Mirrors home outputDir (done ++ [r]) t' := by
  obtain ⟨hplace, hparent⟩ := place_target (t := t) ho h.current
    (mt Text.char_mem_ofString.1 hr.noSlash)
  obtain ⟨t', hwrite, hplaces⟩ := write_plain r.source h.wellFormed (hr.plain ho)
    (by rw [hparent]; exact h.isOpen r) (by rw [hplace]; exact h.free _)
  refine ⟨t', ?_, h.concat hplace hparent hplaces⟩
  have hdirs : ∀ n ∈ packageDirs r.packageName, n.IsUnicode := fun _ hn => isUnicode_of_mem_dirs hn
  have hsame := h.file_iff hdirs r.source
  rw [hwrite, hplace, decide_eq_decide.2 (not_congr hsame)]
  rfl

theorem Mirrors.writeAll (h : Mirrors home outputDir done t) (ho : Descends outputDir)
    (hr : ∀ r ∈ requests, Placeable outputDir r.packageName) :
    ∃ (t' : FileTree) (answers : List (Except FileError Written)),
      ClassFile.writeAll t outputDir requests = (t', answers) ∧
      Mirrors home outputDir (done ++ requests) t' ∧ answers.length = requests.length ∧
      ∀ (i : Nat) (r : Request), requests[i]? = some r →
        answers[i]? = some (.ok ⟨target outputDir r.packageName,
          decide (lastSource (done ++ requests.take i) r.dirs ≠ some r.source)⟩) := by
  induction requests generalizing done t with
  | nil => exact ⟨t, [], rfl, by rwa [List.append_nil], rfl, fun i r hi => by simp at hi⟩
  | cons r rest ih =>
    obtain ⟨t₁, hwrite, h₁⟩ := h.write ho (hr r (.head _))
    obtain ⟨t₂, answers, hrest, h₂, hlen, hans⟩ := ih h₁ fun q hq => hr q (.tail _ hq)
    rw [List.append_assoc, List.singleton_append] at h₂
    refine ⟨t₂, .ok ⟨target outputDir r.packageName,
      decide (lastSource done r.dirs ≠ some r.source)⟩ :: answers, ?_, h₂,
      congrArg (· + 1) hlen, fun i q hi => ?_⟩
    · rw [ClassFile.writeAll, hwrite]
      dsimp only
      rw [hrest]
    · cases i with
      | zero =>
        cases hi
        rw [List.take_zero, List.append_nil]
        rfl
      | succ i =>
        have h := hans i q hi
        rw [List.append_assoc, List.singleton_append] at h
        exact h

/-- **Writing classes one after another** below an output directory, from an empty tree. Every
write succeeds; the one for request `i` reports a change unless the last of the earlier requests
for the same package directories had the same source. At the end the tree mirrors the requests: its
files are one class file for each list of package directories, with the source of the last request
for it, and its directories are those that lead to them. No target is on the way of that of other
package directories. -/
theorem writeAll_mirrors {home : Location} {outputDir : Path} {requests : List Request}
    (ho : Descends outputDir) (hr : ∀ r ∈ requests, Placeable outputDir r.packageName) :
    ∃ (t : FileTree) (answers : List (Except FileError Written)),
      writeAll ⟨home, []⟩ outputDir requests = (t, answers) ∧
      answers.length = requests.length ∧
      (∀ (i : Nat) (r : Request), requests[i]? = some r →
        answers[i]? = some (.ok ⟨target outputDir r.packageName,
          decide (lastSource (requests.take i) r.dirs ≠ some r.source)⟩)) ∧
      Mirrors home outputDir requests t ∧
      ∀ r ∈ requests, ∀ r' ∈ requests,
        (target outputDir r.packageName).OnTheWay (target outputDir r'.packageName) ↔
          r.dirs = r'.dirs := by
  obtain ⟨t, answers, hrun, hmirrors, hlen, hans⟩ := (mirrors_empty home outputDir).writeAll ho hr
  exact ⟨t, answers, hrun, hlen, hans, hmirrors, fun r hmem r' hmem' =>
    target_onTheWay_iff (mt Text.char_mem_ofString.1 (hr r hmem).noSlash)
      (mt Text.char_mem_ofString.1 (hr r' hmem').noSlash)⟩

/-- Requests that share and nest directories, below an output directory that is called like a class
file: two names of one package, a package of no segments, and one above another. -/
def nestedRequests : List Request :=
  [⟨"a.b", "1"⟩, ⟨"", "0"⟩, ⟨".a..b", "1"⟩, ⟨"a", "2"⟩, ⟨"a.b.", "3"⟩]

theorem placeable_nestedRequests :
    ∀ r ∈ nestedRequests, Placeable ⟨.relative, ["out", "BR.java"]⟩ r.packageName := by
  intro r hr
  simp only [nestedRequests, List.mem_cons, List.not_mem_nil, or_false] at hr
  rcases hr with rfl | rfl | rfl | rfl | rfl
  all_goals exact ⟨by decide, by decide, by decide, by decide⟩

theorem writeAll_mirrors_nested :
    Descends ⟨.relative, ["out", "BR.java"]⟩ ∧
    (∀ r ∈ nestedRequests, Placeable ⟨.relative, ["out", "BR.java"]⟩ r.packageName) ∧
    ∃ (t : FileTree) (answers : List (Except FileError Written)),
      writeAll ⟨["w"], []⟩ ⟨.relative, ["out", "BR.java"]⟩ nestedRequests = (t, answers) ∧
      answers.length = nestedRequests.length ∧
      (∀ (i : Nat) (r : Request), nestedRequests[i]? = some r →
        answers[i]? = some (.ok ⟨target ⟨.relative, ["out", "BR.java"]⟩ r.packageName,
          decide (lastSource (nestedRequests.take i) r.dirs ≠ some r.source)⟩)) ∧
      Mirrors ["w"] ⟨.relative, ["out", "BR.java"]⟩ nestedRequests t ∧
      ∀ r ∈ nestedRequests, ∀ r' ∈ nestedRequests,
        (target ⟨.relative, ["out", "BR.java"]⟩ r.packageName).OnTheWay
            (target ⟨.relative, ["out", "BR.java"]⟩ r'.packageName) ↔ r.dirs = r'.dirs :=
  have ho : Descends ⟨.relative, ["out", "BR.java"]⟩ := ⟨rfl, by decide, by decide⟩
  ⟨ho, placeable_nestedRequests, writeAll_mirrors ho placeable_nestedRequests⟩

end BindingIndex.ClassFile
