import BindingIndex.CommandLine.Run
import BindingIndex.Proofs.ClassText.Reading
import BindingIndex.Proofs.CommandLine.Delivery
import BindingIndex.Proofs.Console.Enclosed

/-!
# Completed writes

Once the class file is there, nothing is left to a run but to say so, and its message holds the path
as markup. Tags in the path that only open a style do no harm: they stay open, and the tags of the
message still match (`paragraph_writtenMessage_of_opens`). But a path whose first tag closes one has
none to close, and the run fails over its own message (`paragraph_writtenMessage_closing`). The file
is there in either case: `completed_write`.
-/

namespace BindingIndex

namespace Console.Markup

theorem closed_nil (position : Nat) (body name : List Char) :
    ∃ f, closed position body name [] = .error f := by
  unfold closed
  generalize Text.trim name = trimmed
  cases trimmed with
  | nil => exact ⟨_, rfl⟩
  | cons c rest =>
    dsimp only
    cases normalName (c :: rest) with
    | error f => exact ⟨f, rfl⟩
    | ok style => exact ⟨.unmatched body position, rfl⟩

theorem readFrom_closing {ps : List Piece} {name : List Char}
    (h : (ps.filterMap Piece.body?).head? = some ('/' :: name)) (offset : Nat) :
    ∃ f, readFrom offset [] ps = .error f := by
  induction ps generalizing offset with
  | nil => cases h
  | cons p ps ih =>
    cases p with
    | text alone s =>
      obtain ⟨f, hf⟩ := ih h (offset + (s.filter (!isControl ·)).length)
      exact ⟨f, by rw [readFrom_text, hf]; rfl⟩
    | tag position body =>
      obtain rfl : body = '/' :: name := Option.some.inj h
      obtain ⟨value, hname⟩ : ∃ value, nameAndValue ('/' :: name) =
          ('/' :: name.takeWhile (· ≠ '='), value) := ⟨_, rfl⟩
      obtain ⟨f, hf⟩ := closed_nil position ('/' :: name) (name.takeWhile (· ≠ '='))
      refine ⟨f, ?_⟩
      rw [readFrom, hname]
      simp only [hf, bind, Except.bind]

theorem toBracket?_eq_none {s : List Char} (h : ']' ∉ s) : toBracket? s = none := by
  induction s with
  | nil => rfl
  | cons c s ih =>
    rw [List.mem_cons, not_or] at h
    rw [toBracket?, if_neg (Ne.symm h.1), ih h.2]
    split <;> rfl

end Console.Markup

namespace CommandLine

open Console (paragraph)
open Console.Markup (IsTagName OnlyOpen Opens Piece exists_piecesFrom_append filterMap_body?_texts
  filterMap_body?_withEmoji pieces piecesFrom piecesFrom_before_text piecesFrom_no_bracket
  piecesFrom_tag piecesFrom_text plain_of_all tags withEmoji withEmoji_pair)

variable {t : FileTree}

/-! ## The message about the file -/

theorem withEmoji_check :
    withEmoji [.text false ['✓'], .text true []] = [.text false ['✓'], .text true []] := by
  simp [withEmoji, Console.Markup.joined, Console.Markup.Piece.withEmoji,
    Console.Emoji.replaced_of_colon_not_mem]

theorem isTagName_green : IsTagName "green".toList :=
  ⟨⟨'g', "reen".toList, rfl, by decide, by decide, by decide⟩, plain_of_all rfl, rfl, rfl⟩

theorem isTagName_dim : IsTagName "dim".toList :=
  ⟨⟨'d', "im".toList, rfl, by decide, by decide, by decide⟩, plain_of_all rfl, rfl, rfl⟩

theorem not_mem_toString {c : Char} (hc : c.isDigit = false) (n : Nat) :
    c ∉ (toString n).toList := by
  intro h
  have hdigit : c ∈ Nat.toDigits 10 n := by
    rw [← Nat.toList_repr]
    exact h
  rw [ClassText.isDigit_of_mem_toDigits hdigit] at hc
  cases hc

def writtenMessage (changed : Bool) (path : String) (count : Nat) : String :=
  if changed then "[green]✓[/green] Wrote " ++ path ++ " (" ++ toString count ++ " properties)"
  else "[dim]" ++ path ++ " is up to date[/dim]"

theorem writtenMarkup_eq {w : ClassFile.Written} {path : String} (h : w.path.toText = path)
    (count : Nat) : writtenMarkup w count = writtenMessage w.changed path count := by
  rw [writtenMarkup, writtenMessage, h]
  split <;> simp

/-- The pieces of the message are a pair of tags with texts and those of the path, which come behind
the pair if the file was written. -/
structure MessagePieces (changed : Bool) (path : String) (style : List Char) (second : Nat)
    (inside behind : List Piece) (count : Nat) : Prop where
  name : IsTagName style
  pieces : pieces (writtenMessage changed path count).toList =
    .text true [] :: .tag 0 style :: (inside ++ .tag second ('/' :: style) :: behind)
  tags : (inside ++ behind).filterMap Piece.body? = tags path.toList
  inside : changed = true → inside = [.text false ['✓'], .text true []]

theorem messagePieces_wrote (path : String) (count : Nat) :
    ∃ style second inside behind, MessagePieces true path style second inside behind count := by
  have hmarkup : (writtenMessage true path count).toList =
      '[' :: ("green".toList ++ ']' :: '✓' :: '[' :: ('/' :: "green".toList ++ ']' ::
        (" Wrote".toList ++ ' ' :: (path.toList ++ ' ' :: ('(' ::
          ((toString count).toList ++ " properties)".toList)))))) := by
    simp [writtenMessage]
  have hplain : ∀ c, c.isDigit = false → c ∉ "( properties)".toList →
      c ∉ '(' :: ((toString count).toList ++ " properties)".toList) := by
    intro c hdigit hc
    have hsplit : "( properties)".toList = '(' :: " properties)".toList := by simp
    rw [hsplit, List.mem_cons, not_or] at hc
    simp only [List.mem_cons, List.mem_append, not_or]
    exact ⟨hc.1, not_mem_toString hdigit count, hc.2⟩
  have hclosed : Console.Markup.toBracket? (' ' :: '(' ::
      ((toString count).toList ++ " properties)".toList)) = none := by
    refine Console.Markup.toBracket?_eq_none ?_
    rw [List.mem_cons, not_or]
    exact ⟨by decide, hplain ']' (by decide) (by decide)⟩
  -- the path stands between two texts, which have no tags
  obtain ⟨before, hbefore⟩ := piecesFrom_before_text (by decide : '[' ∉ " Wrote".toList)
    (by decide : ' ' ≠ '\\') (by decide) (0 + "green".toList.length + 2 + 1 +
      ('/' :: "green".toList).length + 2) 0 (path.toList ++ ' ' :: ('(' ::
        ((toString count).toList ++ " properties)".toList)))
  obtain ⟨ps, position, hps, htags⟩ := exists_piecesFrom_append (by decide : ' ' ≠ '\\') (by decide)
    (by decide) hclosed 0 (0 + "green".toList.length + 2 + 1 +
      ('/' :: "green".toList).length + 2 + " Wrote".toList.length + 1) 0 path.toList
  obtain ⟨after, hafter⟩ := piecesFrom_no_bracket
    (hplain '[' (by decide) (by decide)) position 0
  refine ⟨"green".toList, 0 + "green".toList.length + 2 + 1, [.text false ['✓'], .text true []],
    before.map (Piece.text false) ++ (ps ++ after.map (Piece.text false)), isTagName_green, ?_, ?_,
    fun _ => rfl⟩
  · rw [hmarkup, pieces, piecesFrom_tag (isTagName_green.tag?_opening _),
      piecesFrom_text (by decide : '✓' ≠ '\\') (by decide),
      piecesFrom_tag (isTagName_green.tag?_closing _), hbefore, hps, hafter]
    rfl
  · simp only [List.filterMap_append, filterMap_body?_texts, htags]
    simp [tags, pieces, Piece.body?]

theorem messagePieces_current (path : String) (count : Nat) :
    ∃ style second inside behind, MessagePieces false path style second inside behind count := by
  have hmarkup : (writtenMessage false path count).toList =
      '[' :: ("dim".toList ++ ']' :: (path.toList ++ ' ' :: ("is up to dat".toList ++
        'e' :: '[' :: ('/' :: "dim".toList ++ [']'])))) := by
    simp [writtenMessage]
  have hclosed : Console.Markup.toBracket? (' ' :: ("is up to dat".toList ++
      'e' :: '[' :: ('/' :: "dim".toList ++ [']']))) = none := by decide
  obtain ⟨ps, position, hps, htags⟩ := exists_piecesFrom_append (by decide : ' ' ≠ '\\') (by decide)
    (by decide) hclosed 0 (0 + "dim".toList.length + 2) 0 path.toList
  obtain ⟨after, hafter⟩ := piecesFrom_before_text (by decide : '[' ∉ "is up to dat".toList)
    (by decide : 'e' ≠ '\\') (by decide) position 0 ('[' :: ('/' :: "dim".toList ++ [']']))
  refine ⟨"dim".toList, position + "is up to dat".toList.length + 1,
    ps ++ after.map (Piece.text false) ++ [.text true []], [.text false []], isTagName_dim, ?_, ?_,
    fun h => nomatch h⟩
  · rw [hmarkup, pieces, piecesFrom_tag (isTagName_dim.tag?_opening _), hps, hafter,
      piecesFrom_tag (isTagName_dim.tag?_closing []), piecesFrom]
    simp [Console.Markup.backslashes]
  · simp only [List.filterMap_append, filterMap_body?_texts, htags]
    simp [tags, pieces, Piece.body?]

theorem exists_messagePieces (changed : Bool) (path : String) (count : Nat) :
    ∃ style second inside behind, MessagePieces changed path style second inside behind count := by
  cases changed with
  | true => exact messagePieces_wrote path count
  | false => exact messagePieces_current path count

/-- **The message is shown** if every tag in the path opens a style that can be looked up. -/
theorem paragraph_writtenMessage_of_opens {path : String}
    (h : ∀ body ∈ tags path.toList, Opens body) (changed : Bool) (count : Nat) :
    ∃ shown, paragraph (writtenMessage changed path count) = .ok shown := by
  obtain ⟨style, second, inside, behind, hname, hpieces, htags, -⟩ :=
    exists_messagePieces changed path count
  rw [← htags, List.filterMap_append] at h
  obtain ⟨hinside, hbehind⟩ := List.forall_mem_append.1 h
  exact Console.Markup.paragraph_of_pieces hname hinside hbehind hpieces

theorem paragraph_writtenMessage {path : String} (h : '[' ∉ path.toList) (changed : Bool)
    (count : Nat) : ∃ shown, paragraph (writtenMessage changed path count) = .ok shown := by
  obtain ⟨texts, htexts⟩ := piecesFrom_no_bracket h 0 0
  refine paragraph_writtenMessage_of_opens (fun body hbody => ?_) changed count
  rw [tags, pieces, htexts, filterMap_body?_texts] at hbody
  cases hbody

/-- **The message about a file that was written is not shown** if the first tag in the path closes
one. -/
theorem paragraph_writtenMessage_closing {path : String} {name : List Char}
    (h : (tags path.toList).head? = some ('/' :: name)) (count : Nat) :
    ∃ f, paragraph (writtenMessage true path count) = .error f := by
  obtain ⟨style, second, inside, behind, hname, hpieces, htags, hinside⟩ :=
    exists_messagePieces true path count
  rw [← htags, List.filterMap_append, hinside rfl] at h
  have hread : ∃ f, Console.Markup.readFrom 0 []
      (withEmoji (pieces (writtenMessage true path count).toList)) = .error f := by
    rw [hpieces, withEmoji_pair, hinside rfl, withEmoji_check, Console.Markup.readFrom_text,
      Console.Markup.readFrom_open hname, List.cons_append, Console.Markup.readFrom_text,
      List.cons_append, Console.Markup.readFrom_text, List.nil_append]
    generalize _ + List.length _ = offset
    obtain ⟨opened, span, hlength, -, -, hclose⟩ := Console.Markup.readFrom_close hname
      (Console.Markup.allKnown_single hname _) ⟨_, .head _, rfl⟩ offset second
    obtain rfl : opened = [] := List.eq_nil_of_length_eq_zero (by simpa using hlength)
    obtain ⟨f, hf⟩ := Console.Markup.readFrom_closing
      (h := (congrArg List.head? (filterMap_body?_withEmoji behind)).trans h) offset
    exact ⟨f, by rw [hclose, hf]; rfl⟩
  obtain ⟨f, hf⟩ := hread
  refine ⟨f, ?_⟩
  rw [paragraph, Console.Markup.read, hf]
  rfl

/-! ## The run -/

theorem store_of_write_ok {t' : FileTree} {p : Prepared} {source : Text} {w : ClassFile.Written}
    (hw : ClassFile.write t p.config.outputDir p.config.generation.packageName source =
      (t', .ok w)) (verbose : Bool) (events : List Event) :
    store t verbose events p source = .printing t' []
      (shownEvents verbose (events ++ [writtenEvent w])) .success
      (Console.printParagraph (writtenMarkup w (distinct p.names))) := by
  rw [store, hw]

/-- A command line asks for generation and not for a preview, and its run gets as far as writing the
file, with success, whether the text was new or not; `t'` is the tree after that. -/
def Completes (t : FileTree) (args : List Text) (source : Text) (t' : FileTree)
    (w : ClassFile.Written) : Prop :=
  ∃ (r : GenerateRequest) (events : List Event) (p : Prepared),
    Command.ofArguments args = .ok (.generate r) ∧ r.dryRun = false ∧
    prepare t r.options = (events, .ok p) ∧
    ClassText.render p.names p.config.generation = .ok source ∧
    ClassFile.write t p.config.outputDir p.config.generation.packageName source = (t', .ok w)

theorem Completes.run_eq {args : List Text} {source : Text} {t' : FileTree}
    {w : ClassFile.Written} (h : Completes t args source t' w) (input : String) :
    ∃ events count, run t args input =
      .printing t' [] events .success (Console.printParagraph (writtenMarkup w count)) := by
  obtain ⟨r, events, p, hargs, hdry, hprepare, hrender, hwrite⟩ := h
  refine ⟨shownEvents r.verbose (events ++
    [.rendering p.config.generation.packageName (distinct p.names)] ++ [writtenEvent w]),
    distinct p.names, ?_⟩
  rw [run, hargs]
  dsimp only
  rw [Command.run, generate_eq_store hprepare hrender hdry, store_of_write_ok hwrite]

/-- **What is reported of a completed write.** On any tree, let a run get as far as writing the
file, with success. Then the file is there, and nothing else is changed any more. If the path of the
file is Unicode, the run has succeeded if all tags in it open styles that can be looked up, and so
if there are none. But if the file was new and the first tag in its path closes one, the run fails
over its message, and prints nothing. There is no third way to end. -/
theorem completed_write {args : List Text} {source : Text} {t' : FileTree}
    {w : ClassFile.Written} (h : Completes t args source t' w) (input : String) :
    (run t args input).tree = t' ∧
    (∃ bytes, Text.Utf8.encodeText source = .ok bytes ∧ t'.read w.path = .ok bytes) ∧
    ((run t args input).ending = .success ∨
      ∃ f, (run t args input).ending = .unshown f ∧ (run t args input).output = []) ∧
    ∀ path : String, w.path.toText = path →
      ((∀ body ∈ tags path.toList, Opens body) → (run t args input).ending = .success) ∧
      (w.changed = true → ∀ name, (tags path.toList).head? = some ('/' :: name) →
        ∃ f, (run t args input).ending = .unshown f) := by
  obtain ⟨events, count, hrun⟩ := h.run_eq input
  obtain ⟨-, -, p, -, -, -, -, hwrite⟩ := h
  obtain ⟨hpath, hread⟩ := ClassFile.read_of_write_ok hwrite
  rw [← hpath] at hread
  rw [hrun]
  refine ⟨Outcome.tree_printing _ _ _ _ _, hread, ?_, fun path htext => ?_⟩
  · cases Console.printParagraph (writtenMarkup w count) with
    | ok shown => exact .inl rfl
    | error f => exact .inr ⟨f, rfl, rfl⟩
  rw [writtenMarkup_eq htext, Console.printParagraph_ofString]
  refine ⟨fun hopens => ?_, fun hchanged name hname => ?_⟩
  · obtain ⟨shown, hshown⟩ := paragraph_writtenMessage_of_opens hopens w.changed count
    rw [hshown]
    rfl
  · obtain ⟨f, hf⟩ := paragraph_writtenMessage_closing hname count
    rw [hchanged, hf]
    exact ⟨_, rfl⟩

def bare : FileTree := ⟨["work"], []⟩

def packageLine (package : String) : List Text := ["generate", "-p", package]

def packageRequest (package : String) : GenerateRequest :=
  ⟨⟨none, some package, [], none, none, none⟩, false, false⟩

def packagePrepared (package : String) : Prepared :=
  ⟨⟨⟨package, true⟩, .ofText "generated", [], none⟩, []⟩

def packageSource (package : String) : String :=
  "package " ++ package ++
    ";\npublic class BR \x7b\n    public static final int _all = 0;\n\x7d\n"

theorem completes_bold : ∃ t', Completes bare (packageLine "a[b]") (packageSource "a[b]") t'
    ⟨.ofText "generated/a[b]/BR.java", true⟩ :=
  ⟨_, packageRequest "a[b]", [], packagePrepared "a[b]", ok_of_toOption (by decide +kernel), rfl,
    Prod.ext rfl (ok_of_toOption (by decide +kernel)), ok_of_toOption (by decide +kernel),
    Prod.ext rfl (ok_of_toOption (by decide +kernel))⟩

theorem opens_bold : ∀ body ∈ tags "generated/a[b]/BR.java".toList, Opens body := by
  have htags : tags "generated/a[b]/BR.java".toList = [['b']] := by
    cbv
  rw [htags]
  intro body hbody
  rw [List.mem_singleton.1 hbody]
  exact ⟨by decide, "bold", ok_of_toOption (by decide), "bold",
    ok_of_toOption (by decide)⟩

/-- The name of the package opens a style. -/
theorem completed_write_bold :
    ∃ t', Completes bare (packageLine "a[b]") (packageSource "a[b]") t'
        ⟨.ofText "generated/a[b]/BR.java", true⟩ ∧
      (Path.ofText "generated/a[b]/BR.java").toText = "generated/a[b]/BR.java" ∧
      (∀ body ∈ tags "generated/a[b]/BR.java".toList, Opens body) ∧
      (run bare (packageLine "a[b]") "").tree = t' ∧
      (run bare (packageLine "a[b]") "").ending = .success := by
  obtain ⟨t', hcompletes⟩ := completes_bold
  have htext : (Path.ofText "generated/a[b]/BR.java").toText = "generated/a[b]/BR.java" := by decide
  obtain ⟨htree, -, -, hreport⟩ := completed_write hcompletes ""
  exact ⟨t', hcompletes, htext, opens_bold, htree, (hreport _ htext).1 opens_bold⟩

/-- The name of the package closes a style. Its file is written, and the run fails. -/
theorem completed_write_unreported :
    (∃ t', Completes bare (packageLine "a[/b]") (packageSource "a[/b]") t'
      ⟨.ofText "generated/a[/b]/BR.java", true⟩) ∧
    (run bare (packageLine "a[/b]") "").tree.read (.ofText "generated/a[/b]/BR.java") =
      .ok (Text.Utf8.encode (packageSource "a[/b]")) ∧
    (run bare (packageLine "a[/b]") "").output = [] ∧
    (run bare (packageLine "a[/b]") "").ending.exitCode = 1 ∧
    (run bare (packageLine "a[/b]") "").ending.complaint =
      "closing tag '[/b]' at position 34 doesn't match any open tag" := by
  have hrun : ((run bare (packageLine "a[/b]") "").tree.read
        (.ofText "generated/a[/b]/BR.java")).toOption =
          some (Text.Utf8.encode (packageSource "a[/b]")) ∧
      (run bare (packageLine "a[/b]") "").output = [] ∧
      (run bare (packageLine "a[/b]") "").ending.exitCode = 1 ∧
      (run bare (packageLine "a[/b]") "").ending.complaint =
        "closing tag '[/b]' at position 34 doesn't match any open tag" := by decide +kernel
  exact ⟨⟨_, packageRequest "a[/b]", [], packagePrepared "a[/b]",
    ok_of_toOption (by decide +kernel), rfl, Prod.ext rfl (ok_of_toOption (by decide +kernel)),
    ok_of_toOption (by decide +kernel), Prod.ext rfl (ok_of_toOption (by decide +kernel))⟩,
    ok_of_toOption hrun.1, hrun.2⟩

end CommandLine

end BindingIndex
