import BindingIndex.CommandLine.Run
import BindingIndex.Proofs.CommandLine.FailedRun
import BindingIndex.Proofs.CommandLine.Preview
import BindingIndex.Proofs.CommandLine.Specs
import BindingIndex.Proofs.Config.Resolved
import BindingIndex.Proofs.Console.Tables

/-!
# Showing before generating

The show command takes the options of the generate command that matter for the indices, all but the
output directory. Whatever that is, both commands are prepared in the same way (`prepare_output`),
so they fail alike. Once prepared, the table is always shown unless a name or the package can be
taken for markup (`exists_indexTable_eq_ok`), and the one thing that can still stop a preview is the
reserved name, which the show command looks for among the names and the other one finds while it
renders them: `show_predicts_generate`.
-/

namespace BindingIndex

/-! ## The output directory -/

theorem Config.resolve_output (t : FileTree) (o : Options) (out : Option Text) :
    (∃ f, resolve t o = .error f ∧ resolve t { o with output := out } = .error f) ∨
    ∃ c dir, resolve t o = .ok c ∧
      resolve t { o with output := out } = .ok { c with outputDir := dir } := by
  rw [resolve, resolve]
  cases given o.config with
  | some path =>
    dsimp only
    cases load t (.ofText path) with
    | error f => exact .inl ⟨f, rfl, rfl⟩
    | ok own => exact .inr ⟨override own o, _, rfl, rfl⟩
  | none =>
    cases hp : given o.package with
    | none =>
      exact .inl ⟨_, ofArguments_toArguments_none hp,
        ofArguments_toArguments_none (o := { o with output := out }) hp⟩
    | some packageName =>
      have halone := ofArguments_toArguments hp
      have halone' := ofArguments_toArguments (o := { o with output := out }) hp
      by_cases hu : packageName.IsUnicode
      · rw [if_pos hu] at halone halone'
        exact .inr ⟨_, _, halone, halone'⟩
      · rw [if_neg hu] at halone halone'
        exact .inl ⟨_, halone, halone'⟩

namespace CommandLine

variable {t : FileTree}

/-- **A run is prepared** in the same way for every output directory: it fails with the same error,
or it gets the same package, finality and names. -/
theorem prepare_output (t : FileTree) (o : Options) (out : Option Text) :
    (∃ events f, prepare t o = (events, .error f) ∧
      prepare t { o with output := out } = (events, .error f)) ∨
    ∃ events p dir, prepare t o = (events, .ok p) ∧
      prepare t { o with output := out } =
        (events, .ok { p with config := { p.config with outputDir := dir } }) := by
  rw [prepare, prepare]
  rcases Config.resolve_output t o out with ⟨f, hf, hf'⟩ | ⟨c, dir, hc, hc'⟩
  · rw [hf, hf']
    exact .inl ⟨_, f, rfl, rfl⟩
  · have hnames : Config.propertyNames t { c with outputDir := dir } = Config.propertyNames t c :=
      rfl
    rw [hc, hc']
    dsimp only
    rw [hnames]
    cases Config.propertyNames t c with
    | error f => exact .inl ⟨_, f, rfl, rfl⟩
    | ok names => exact .inr ⟨_, ⟨c, names⟩, dir, rfl, rfl⟩

/-! ## The table -/

/-- Nothing in the package of a run or in its names can be taken for markup. -/
def Prepared.NoMarkup (p : Prepared) : Prop :=
  CodePoint.char '[' ∉ p.config.generation.packageName ∧
    ∀ n ∈ p.names, CodePoint.char '[' ∉ n

/-- The package of a run and its names can be printed, and every name has an index that can be
written. -/
structure Prepared.Printable (p : Prepared) : Prop where
  packageName : p.config.generation.packageName.IsUnicode
  names : ∀ n ∈ p.names, n.IsUnicode
  count : distinct p.names < Text.firstTooLong

/-- A text without surrogates as it is drawn. -/
def drawn (t : Text) : String := String.ofList t.shown

theorem not_mem_drawn {t : Text} (hu : t.IsUnicode) {c : Char} (h : CodePoint.char c ∉ t) :
    c ∉ (drawn t).toList := by
  obtain ⟨s, rfl⟩ := hu.exists_chars
  rw [Text.char_mem_ofChars] at h
  rwa [drawn, Text.shown_ofChars, String.toList_ofList]

theorem shows_allRow : ∀ cell ∈ allRow, Console.Markup.Shows cell := by
  have hread : Console.Markup.read
      (ClassText.allProperties ++ " [dim](all properties)[/dim]").toList =
      .ok ⟨"_all (all properties)".toList, [⟨5, 21, some "dim"⟩]⟩ :=
    ok_of_toOption (by decide +kernel)
  intro cell hcell
  rcases List.mem_cons.1 hcell with rfl | hcell
  · exact Console.Markup.shows_of_no_bracket (by decide)
  · obtain rfl := List.mem_singleton.1 hcell
    refine ⟨_, hread, fun s hs => ?_⟩
    obtain rfl := List.mem_singleton.1 hs
    exact ⟨"dim", rfl⟩

/-- **The indices of a run are shown** if nothing in them can be taken for markup. -/
theorem exists_indexTable_eq_ok {p : Prepared} (h : p.NoMarkup) (hp : p.Printable) :
    ∃ table, (indexTable drawn p).render = .ok table := by
  refine Console.Table.exists_render_eq_ok ?_ ?_
  · refine Console.Markup.shows_of_no_bracket ?_
    simp only [indexTable, String.toList_append, List.mem_append, not_or]
    exact ⟨⟨not_mem_drawn hp.packageName h.1, by decide⟩, by decide⟩
  · intro row hrow cell hcell
    rcases List.mem_cons.1 hrow with rfl | hrow
    · exact shows_allRow cell hcell
    · obtain ⟨e, he, rfl⟩ := List.mem_map.1 hrow
      refine Console.Markup.shows_of_no_bracket ?_
      rcases List.mem_cons.1 hcell with rfl | hcell
      · exact ClassText.not_mem_toString_int (by decide) (by decide) _
      · obtain rfl := List.mem_singleton.1 hcell
        have hmem := ClassText.mem_ofNames_iff.1 ⟨e, he, rfl⟩
        exact not_mem_drawn (hp.names _ hmem) (h.2 _ hmem)

/-! ## The two messages -/

def reservedNotice : List Char :=
  "⚠ '_all' is reserved; generate will reject this property set\n".toList

theorem append_reservedNotice_ne (table : List Char) : table ++ reservedNotice ≠ table := by
  have hne : reservedNotice ≠ [] := by decide
  exact fun h => hne (List.append_right_eq_self.1 h)

theorem printParagraph_reservedWarning :
    Console.printParagraph reservedWarning = .ok reservedNotice :=
  ok_of_toOption (by decide +kernel)

def reservedReport : List Char :=
  ("Error: Property name '_all' is reserved for the all-properties constant (index \n" ++
    "0)\n").toList

theorem printParagraph_reserved :
    Console.printParagraph (errorMarkup (Failure.source .reserved).message) = .ok reservedReport :=
  ok_of_toOption (by decide +kernel)

theorem refuse_events (t : FileTree) (events events' : List Event) (f : Failure) :
    (refuse t events f).ending = (refuse t events' f).ending ∧
      (refuse t events f).output = (refuse t events' f).output := by
  rw [refuse, refuse]
  split
  · cases Console.printParagraph (errorMarkup f.message) <;> exact ⟨rfl, rfl⟩
  · exact ⟨rfl, rfl⟩

theorem refuse_reserved (t : FileTree) (events : List Event) :
    refuse t events (.source .reserved) = ⟨t, reservedReport, events, .reported⟩ := by
  have hreported : isReported (.source .reserved) = true := rfl
  rw [refuse, if_pos hreported, printParagraph_reserved]
  rfl

/-! ## The two commands -/

theorem tree_showIndices (t : FileTree) (o : Options) : (showIndices t o).tree = t := by
  rw [showIndices]
  split
  · exact tree_refuse _ _ _
  · exact Outcome.tree_printing _ _ _ _ _

/-- **What the show command prints** for a prepared run: the table, and a warning if the reserved
name is there. -/
theorem showIndices_of_prepare {o : Options} {events : List Event} {p : Prepared}
    (hp : prepare t o = (events, .ok p)) (hplain : p.NoMarkup) (hprint : p.Printable) :
    ∃ table, (indexTable drawn p).render = .ok table ∧ (showIndices t o).ending = .success ∧
      (showIndices t o).output =
        if (ClassText.allProperties : Text) ∈ p.names then table ++ reservedNotice else table := by
  obtain ⟨table, htable⟩ := exists_indexTable_eq_ok hplain hprint
  have hunicode : ∀ t ∈ p.config.generation.packageName :: p.names, t.IsUnicode :=
    List.forall_mem_cons.2 ⟨hprint.packageName, hprint.names⟩
  have hprinted : Console.print (p.config.generation.packageName :: p.names)
      (fun drawn => (indexTable drawn p).render) = .ok table := by
    rw [Console.print_of_isUnicode hunicode]
    exact congrArg (Except.mapError _) htable
  have hover : overview p =
      .ok (if (ClassText.allProperties : Text) ∈ p.names then table ++ reservedNotice
        else table) := by
    simp only [overview, hprinted, printParagraph_reservedWarning, bind, Except.bind,
      List.contains_iff_mem]
    split <;> rfl
  refine ⟨table, htable, ?_⟩
  rw [showIndices, hp]
  dsimp only
  rw [hover]
  exact ⟨rfl, rfl⟩

/-- **How a preview ends** for a prepared run: it refuses the reserved name, or it succeeds. -/
theorem preview_of_prepare {r : GenerateRequest} {events : List Event} {p : Prepared}
    (hp : prepare t r.options = (events, .ok p)) (hprint : p.Printable) (hr : r.dryRun = true) :
    if (ClassText.allProperties : Text) ∈ p.names then
      (generate t r).ending = .reported ∧ (generate t r).output = reservedReport
    else (generate t r).ending = .success := by
  split
  · rename_i hall
    have hrender : ClassText.render p.names p.config.generation = .error .reserved :=
      (ClassText.render_eq_error_iff hprint.count).2 ⟨rfl, hall⟩
    rw [generate, hp]
    dsimp only
    rw [hrender]
    dsimp only
    rw [refuse_reserved]
    exact ⟨rfl, rfl⟩
  · rename_i hall
    have hrender := ClassText.render_eq_sourceText hprint.count p.config.generation hall
    have hunicode := ClassText.isUnicode_render hprint.packageName hprint.names hrender
    exact (((delivers_of_render hp hrender).printed hr).2 hunicode).1

/-- What the outcome of showing the indices of a prepared run tells about the one of its preview. -/
structure Predicts (p : Prepared) (shown dry : Outcome) : Prop where
  success : shown.ending = .success
  printed : ∃ table, (indexTable drawn p).render = .ok table ∧
    (shown.output = table ++ reservedNotice ∨ shown.output = table) ∧
    (shown.output = table ++ reservedNotice ↔
      dry.ending = .reported ∧ dry.output = reservedReport) ∧
    (shown.output = table → dry.ending = .success)

theorem predicts_of_prepare {o : Options} {r : GenerateRequest} {events : List Event} {p : Prepared}
    {dir : Path} (hp : prepare t o = (events, .ok p)) (hplain : p.NoMarkup) (hprint : p.Printable)
    (hp' : prepare t r.options =
      (events, .ok { p with config := { p.config with outputDir := dir } }))
    (hr : r.dryRun = true) : Predicts p (showIndices t o) (generate t r) := by
  obtain ⟨table, htable, hending, houtput⟩ := showIndices_of_prepare hp hplain hprint
  have hprint' : Prepared.Printable { p with config := { p.config with outputDir := dir } } :=
    ⟨hprint.packageName, hprint.names, hprint.count⟩
  have hpreview := preview_of_prepare hp' hprint' hr
  have hne := append_reservedNotice_ne table
  refine ⟨hending, table, htable, ?_⟩
  rw [houtput]
  by_cases hall : (ClassText.allProperties : Text) ∈ p.names
  · rw [if_pos hall] at hpreview ⊢
    exact ⟨.inl rfl, ⟨fun _ => hpreview, fun _ => rfl⟩, fun heq => absurd heq hne⟩
  · rw [if_neg hall] at hpreview ⊢
    refine ⟨.inr rfl, ⟨fun heq => absurd heq.symm hne, fun hreported => ?_⟩, fun _ => hpreview⟩
    rw [hpreview] at hreported
    cases hreported.1

/-! ## Command lines -/

/-- The command line `shown` shows the indices for the options `o`, and `dry` previews the
generation `r` with the same options, up to its output directory. -/
structure Compares (shown dry : List Text) (o : Options) (r : GenerateRequest) : Prop where
  shown : Command.ofArguments shown = .ok (.showIndices o)
  dry : Command.ofArguments dry = .ok (.generate r)
  dryRun : r.dryRun = true
  sources : r.options = { o with output := r.options.output }

theorem ofArguments_output {args : List Text} {g : Given}
    (h : readOptions generateSpecs args = .ok g) (out : Text) :
    Command.ofArguments ("generate" :: "-o" :: out :: args) =
      .ok (.generate ⟨optionsOf (g.withOptions [⟨.output, out⟩]), g.has .dryRun,
        g.has .verbose⟩) := by
  have hread : readOption generateSpecs "-o" = .ok ⟨[], some (.output, "-o")⟩ := by decide
  have hall : readOptions generateSpecs ("-o" :: out :: args) =
      .ok (g.withOptions [⟨.output, out⟩]) := by
    obtain ⟨hargs, hextra⟩ := readOptions_eq_ok_iff.1 h
    refine readOptions_eq_ok_iff.2 ⟨?_, hextra⟩
    rw [readArguments, if_neg (by decide), if_pos (by decide), hread]
    dsimp only
    rw [hargs]
    rfl
  show (readOptions generateSpecs ("-o" :: out :: args)).map _ = _
  rw [hall]
  rfl

/-- **Every command line that shows indices** has its preview, with any output directory. -/
theorem exists_compares {args : List Text} {o : Options}
    (h : Command.ofArguments ("show" :: args) = .ok (.showIndices o)) (out : Text) :
    ∃ r, Compares ("show" :: args) ("generate" :: "--dry-run" :: "-o" :: out :: args) o r := by
  have hshow : Command.ofArguments ("show" :: args) =
      (readOptions sourceSpecs args).map fun g => .showIndices (optionsOf g) := rfl
  obtain ⟨g, hg, ho⟩ := map_eq_ok_iff.1 (hshow.symm.trans h)
  cases ho
  -- the generate command knows these options too, and the others are its own
  have hown : ∀ s ∈ outputSpec :: [⟨.dryRun, "--dry-run", none, false⟩,
      ⟨.verbose, "--verbose", some 'v', false⟩], Text.ofString "--" <+: s.long := by decide
  have hg' : readOptions generateSpecs args = .ok g := readOptions_append hown hg
  have hdry : Command.ofArguments ("generate" :: "--dry-run" :: "-o" :: out :: args) =
      .ok (.generate ⟨optionsOf (g.withOptions [⟨.output, out⟩]), true, g.has .verbose⟩) := by
    rw [ofArguments_dryRun, ofArguments_output hg' out]
    rfl
  exact ⟨_, h, hdry, rfl, rfl⟩

/-! ## The forecast -/

/-- **Showing predicts generating.** On any tree, compare a command line that shows indices with a
preview for the same options, whatever the output directory of the latter. Both leave the tree as it
is. They fail to resolve or to collect in the same cases, with the same exit code, output and
ending. Otherwise, if package and names hold no markup and can be printed, the first succeeds with
the table of indices. It warns about the reserved name exactly if the preview ends with the error
that reports this name, and without a warning the preview succeeds. -/
theorem show_predicts_generate {shown dry : List Text} {input : String} {o : Options}
    {r : GenerateRequest} (h : Compares shown dry o r) :
    (run t shown input).tree = t ∧ (run t dry input).tree = t ∧
    (∀ f, (prepare t o).2 = .error f ↔ (prepare t r.options).2 = .error f) ∧
    (∀ f, (prepare t o).2 = .error f →
      (run t shown input).ending.exitCode = 1 ∧
      (run t shown input).ending = (run t dry input).ending ∧
      (run t shown input).output = (run t dry input).output) ∧
    ∀ p, (prepare t o).2 = .ok p → p.NoMarkup → p.Printable →
      Predicts p (run t shown input) (run t dry input) := by
  have hshown : run t shown input = showIndices t o := by rw [run, h.shown]; rfl
  have hdry : run t dry input = generate t r := by rw [run, h.dry]; rfl
  rw [hshown, hdry]
  refine ⟨tree_showIndices t o, tree_generate_of_dryRun h.dryRun, ?_⟩
  have hprepare := prepare_output t o r.options.output
  rw [← h.sources] at hprepare
  rcases hprepare with ⟨events, f, hp, hp'⟩ | ⟨events, p, dir, hp, hp'⟩
  · have hrefused : showIndices t o = refuse t (shownEvents false events) f := by
      rw [showIndices, hp]
    have hrefused' : generate t r = refuse t (shownEvents r.verbose events) f := by
      rw [generate, hp']
    rw [hp, hp', hrefused, hrefused']
    refine ⟨fun _ => Iff.rfl, fun f' _ => ?_, fun p hok => by cases hok⟩
    exact ⟨exitCode_refuse _ _ _, refuse_events _ _ _ _⟩
  · rw [hp, hp']
    -- neither of the two has failed, so there is only the last part
    refine ⟨fun f => ⟨fun herror => ?_, fun herror => ?_⟩, fun f herror => ?_,
      fun p' hok hplain hprint => ?_⟩
    · cases herror
    · cases herror
    · cases herror
    · cases hok
      exact predicts_of_prepare hp hplain hprint hp' h.dryRun

def taken : FileTree where
  current := ["work"]
  items := [(["work", "names"], .file (Text.Utf8.encode "b\n_all\n"))]

def takenOptions : Options := ⟨none, some "app", ["a"], some "names", none, none⟩

def takenRequest : GenerateRequest :=
  ⟨{ takenOptions with output := some "new/../gen" }, true, true⟩

def takenLine : List Text := ["show", "-p", "app", "--property", "a", "-f", "names"]

def takenPreview : List Text :=
  ["generate", "--properties-file=names", "-v", "--dry-run", "--property", "a", "-papp", "-o",
    "new/../gen"]

theorem compares_taken : Compares takenLine takenPreview takenOptions takenRequest :=
  ⟨ok_of_toOption (by decide +kernel), ok_of_toOption (by decide +kernel), rfl, rfl⟩

def takenPrepared : Prepared := ⟨Config.alone "app" takenOptions, ["a", "b", "_all"]⟩

theorem prepare_takenOptions : (prepare taken takenOptions).2 = .ok takenPrepared :=
  ok_of_toOption (by decide +kernel)

/-- The reserved name is in the list. -/
theorem show_predicts_generate_taken :
    Compares takenLine takenPreview takenOptions takenRequest ∧
    takenPrepared.NoMarkup ∧ takenPrepared.Printable ∧
    (run taken takenLine "").tree = taken ∧ (run taken takenPreview "").tree = taken ∧
    (∀ f, (prepare taken takenOptions).2 = .error f ↔
      (prepare taken takenRequest.options).2 = .error f) ∧
    Predicts takenPrepared (run taken takenLine "") (run taken takenPreview "") :=
  have hplain : takenPrepared.NoMarkup := ⟨by decide, by decide⟩
  have hprint : takenPrepared.Printable := ⟨by decide, by decide, by decide +kernel⟩
  have h := @show_predicts_generate taken _ _ "" _ _ compares_taken
  ⟨compares_taken, hplain, hprint, h.1, h.2.1, h.2.2.1,
    h.2.2.2.2 _ prepare_takenOptions hplain hprint⟩

/-- A name with a surrogate: the run is prepared and holds no markup, but its table is not shown. -/
theorem show_fails_stray :
    Command.ofArguments ["show", "-c", "a.yaml"] = .ok (.showIndices configuredRequest.options) ∧
    (prepare configured configuredRequest.options).2 = .ok ⟨strayConfig, strayConfig.properties⟩ ∧
    Prepared.NoMarkup ⟨strayConfig, strayConfig.properties⟩ ∧
    (ClassText.allProperties : Text) ∉ strayConfig.properties ∧
    (run configured ["show", "-c", "a.yaml"] "").ending.exitCode = 1 ∧
    (run configured ["show", "-c", "a.yaml"] "").output = [] ∧
    (run configured ["show", "-c", "a.yaml"] "").ending.complaint =
      "'utf-8' codec can't encode character '\\udcff' in position 180: surrogates not allowed" ++
        "\n*** You may need to add PYTHONIOENCODING=utf-8 to your environment ***" := by
  have hprepare : (prepare configured configuredRequest.options).2 =
      .ok ⟨strayConfig, strayConfig.properties⟩ := ok_of_toOption (by decide +kernel)
  have hplain : Prepared.NoMarkup ⟨strayConfig, strayConfig.properties⟩ := ⟨by decide, by decide⟩
  refine ⟨ok_of_toOption (by decide +kernel), hprepare, hplain, by decide, ?_⟩
  decide +kernel

end CommandLine

end BindingIndex
