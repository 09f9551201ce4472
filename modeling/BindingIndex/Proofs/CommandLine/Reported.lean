import BindingIndex.CommandLine.Run
import BindingIndex.Proofs.CommandLine.Preview
import BindingIndex.Proofs.Console.Literal
import BindingIndex.Proofs.Console.Setting

/-!
# Errors that are reported

A command that fails before its work starts prints the message of the failure, as markup. So a
message that stands for itself is shown in full, and no other: a tag in it is not shown, an emoji
takes the place of its code, or it cannot be shown at all, and then the run ends without any output
(`reports_refuse`). The report on a configuration that is not valid puts what it found in brackets,
and these are taken for a tag unless the value itself has a bracket in it (`not_literal_of_fault`).
-/

namespace BindingIndex

namespace Console

theorem exists_of_paragraph {markup : String} {shown : List Char}
    (h : paragraph markup = .ok shown) :
    ∃ t, Markup.read markup.toList = .ok t ∧
      shown = screen ((Wrap.lines width .fold .free t.highlighted).map StyledText.parts) := by
  obtain ⟨t, hread, h⟩ := bind_eq_ok_iff.1 h
  obtain ⟨lines, hset, h⟩ := bind_eq_ok_iff.1 h
  obtain ⟨-, -, hlines⟩ := bind_eq_ok_iff.1 hset
  cases hlines
  cases h
  exact ⟨t, hread, rfl⟩

end Console

namespace CommandLine

open Console (paragraph)
open Console.Markup (IsTagName Literal OnlyOpen Piece Verbatim pieces piecesFrom seen stripped)
open Text (withoutBlanks withoutBlanks_append Cells.Plain)

variable {t : FileTree} {message : Text} {s : String}

/-! ## The markup of a message -/

def errorText (s : String) : String := "[bold red]Error:[/bold red] " ++ s

theorem errorMarkup_ofString (s : String) : errorMarkup s = errorText s :=
  (Text.ofString_append _ s).symm

theorem isTagName_boldRed : IsTagName "bold red".toList :=
  ⟨⟨'b', "old red".toList, rfl, by decide, by decide, by decide⟩, Console.Markup.plain_of_all rfl,
    by decide, ok_of_toOption (by decide +kernel)⟩

def labelPieces : List Piece :=
  "Error:".toList.map (fun c => .text false [c]) ++ [.text true []]

theorem onlyOpen_labelPieces : OnlyOpen labelPieces := by
  have hnone : labelPieces.filterMap Piece.body? = [] := by decide
  intro body hbody
  rw [hnone] at hbody
  cases hbody

theorem shown_labelPieces :
    (Console.Markup.withEmoji labelPieces).flatMap Piece.shown = "Error:".toList := by
  have hjoined : Console.Markup.joined labelPieces =
      [.text false ("Error".toList ++ [':']), .text true []] := by decide
  have hcolon : Console.Emoji.replaced ("Error".toList ++ [':']) = "Error".toList ++ [':'] :=
    Console.Emoji.replaced_of_colon (by decide) (by decide)
  rw [Console.Markup.withEmoji, hjoined, List.map_cons, List.flatMap_cons, Piece.withEmoji, hcolon]
  simp [Piece.withEmoji, Piece.shown]

theorem pieces_errorText (s : String) :
    ∃ position second, pieces (errorText s).toList =
      .text true [] :: .tag 0 "bold red".toList :: (labelPieces ++
        .tag second ('/' :: "bold red".toList) :: .text false [' '] ::
          piecesFrom position 0 s.toList) := by
  have hmarkup : (errorText s).toList = '[' :: ("bold red".toList ++ ']' ::
      ("Error:".toList ++ '[' :: ('/' :: "bold red".toList ++ ']' :: ' ' :: s.toList))) := by
    have hstart : (errorText s).toList = "[bold red]Error:[/bold red] ".toList ++ s.toList :=
      String.toList_append
    simp [hstart]
  have hlabel : ∀ (position : Nat) (rest : List Char),
      piecesFrom position 0 ("Error:".toList ++ rest) =
        "Error:".toList.map (fun c => .text false [c]) ++ piecesFrom (position + 6) 0 rest := by
    intro position rest
    show piecesFrom position 0 ('E' :: 'r' :: 'r' :: 'o' :: 'r' :: ':' :: rest) = _
    simp only [Console.Markup.piecesFrom_text (by decide : 'E' ≠ '\\') (by decide),
      Console.Markup.piecesFrom_text (by decide : 'r' ≠ '\\') (by decide),
      Console.Markup.piecesFrom_text (by decide : 'o' ≠ '\\') (by decide),
      Console.Markup.piecesFrom_text (by decide : ':' ≠ '\\') (by decide)]
    rfl
  rw [hmarkup, pieces, Console.Markup.piecesFrom_tag (isTagName_boldRed.tag?_opening _), hlabel,
    Console.Markup.piecesFrom_tag (isTagName_boldRed.tag?_closing _),
    Console.Markup.piecesFrom_text (by decide : ' ' ≠ '\\') (by decide)]
  exact ⟨_, _, rfl⟩

theorem stripped_errorText (s : String) :
    stripped (errorText s).toList = "Error: ".toList ++ stripped s.toList := by
  obtain ⟨position, second, hpieces⟩ := pieces_errorText s
  have hmessage : (Console.Markup.withEmoji (piecesFrom position 0 s.toList)).flatMap Piece.shown =
      stripped s.toList :=
    Console.Markup.shown_withEmoji_congr (Console.Markup.unplaced_piecesFrom position 0 0 s.toList)
  rw [stripped, hpieces, Console.Markup.withEmoji_pair, List.flatMap_cons, List.flatMap_cons,
    List.flatMap_append, List.flatMap_cons, shown_labelPieces,
    Console.Markup.shown_withEmoji_cons (by decide), hmessage]
  rfl

theorem seen_errorText (s : String) :
    seen (errorText s).toList = "Error: ".toList ++ seen s.toList := by
  rw [seen, stripped_errorText, List.filter_append]
  rfl

theorem paragraph_errorText (h : Literal s.toList) :
    ∃ shown, paragraph (errorText s) = .ok shown := by
  obtain ⟨position, second, hpieces⟩ := pieces_errorText s
  obtain ⟨texts, htexts, -⟩ :=
    Console.Markup.piecesFrom_of_literal position 0 (s := s.toList) h
  rw [htexts] at hpieces
  exact Console.Markup.paragraph_of_pieces isTagName_boldRed onlyOpen_labelPieces
    (Console.Markup.onlyOpen_texts ([' '] :: texts)) hpieces

/-! ## What is on the screen -/

/-- The message has no control characters but line feeds. -/
def IsQuiet (message : Text) : Prop :=
  ∀ p ∈ message, isControl p = true → p = .char '\n'

instance (message : Text) : Decidable (IsQuiet message) :=
  inferInstanceAs (Decidable (∀ p ∈ message, _ → _))

/-- What is seen of the message has no joiner, selector or tab in it. -/
def SeenPlain (s : String) : Prop := Cells.Plain (seen s.toList) ∧ '\t' ∉ seen s.toList

instance (s : String) : Decidable (SeenPlain s) := inferInstanceAs (Decidable (_ ∧ _))

/-- Setting the message in lines changes nothing but white space. -/
def WrapsInFull (s : String) : Prop :=
  ∀ text, Console.Markup.read (errorText s).toList = .ok text → text.highlighted.SetsInFull

theorem text_errorText {text : Console.StyledText}
    (h : Console.Markup.read (errorText s).toList = .ok text) :
    text.text = "Error: ".toList ++ seen s.toList := by
  rw [Console.Markup.text_of_read h, seen_errorText]

/-- What wrapping does has to be assumed only where joiners, selectors or tabs are seen. -/
theorem wrapsInFull_of_seenPlain (hplain : SeenPlain s) : WrapsInFull s := by
  intro text h
  have hlabel : "Error: ".toList.all
      (fun c => c ≠ Text.Cells.joiner ∧ c ≠ Text.Cells.selector ∧ c ≠ '\t') = true := by decide
  have hshown : ∀ c ∈ "Error: ".toList,
      c ≠ Text.Cells.joiner ∧ c ≠ Text.Cells.selector ∧ c ≠ '\t' := fun c hc =>
    of_decide_eq_true (List.all_eq_true.1 hlabel c hc)
  have htext : text.highlighted.text = "Error: ".toList ++ seen s.toList :=
    (text_errorText h : text.text = _)
  refine Console.StyledText.setsInFull ?_ ?_ <;> rw [htext]
  · exact List.forall_mem_append.2 ⟨fun c hc => (hshown c hc).imp_right And.left, hplain.1⟩
  · rw [List.mem_append, not_or]
    exact ⟨fun hc => (hshown _ hc).2.2 rfl, hplain.2⟩

/-- **What is on the screen** if the message can be shown. -/
theorem withoutBlanks_of_paragraph (hwrap : ¬ SeenPlain s → WrapsInFull s) {shown : List Char}
    (h : paragraph (errorText s) = .ok shown) :
    withoutBlanks shown = withoutBlanks ("Error:".toList ++ seen s.toList) := by
  obtain ⟨text, hread, rfl⟩ := Console.exists_of_paragraph h
  have hset : text.highlighted.SetsInFull := by
    by_cases hplain : SeenPlain s
    · exact wrapsInFull_of_seenPlain hplain text hread
    · exact hwrap hplain text hread
  have htext : text.highlighted.text = "Error: ".toList ++ seen s.toList :=
    (text_errorText hread : text.text = _)
  have hlabel : withoutBlanks "Error: ".toList = withoutBlanks "Error:".toList := by decide
  rw [hset, htext, withoutBlanks_append, withoutBlanks_append, hlabel]

/-! ## Reports -/

/-- The run has reported the whole message, which is a string: without white space, its output is a
label and the message. -/
def InFull (message : Text) (out : Outcome) : Prop :=
  ∃ s : String, message = s ∧ out.ending = .reported ∧
    withoutBlanks out.output = withoutBlanks ("Error:".toList ++ s.toList)

/-- The outcome of a run that reports a message. It has changed nothing, and ends with exit code 1;
but a message is reported in full only if it stands for itself. Of any other string either just what
is seen of it as markup is reported, or it is not shown at all and the run fails over it, and a
message with surrogates may end in this way as well. -/
structure Reports (t : FileTree) (message : Text) (out : Outcome) : Prop where
  tree : out.tree = t
  exitCode : out.ending.exitCode = 1
  ends : out.ending = .reported ∨ ∃ fault, out.ending = .unshown fault ∧ out.output = []
  full_iff : InFull message out ↔ ∃ s : String, message = s ∧ Verbatim s.toList
  otherwise : ∀ s : String, message = s → out.ending = .reported →
    withoutBlanks out.output = withoutBlanks ("Error:".toList ++ seen s.toList)

theorem refuse_eq_printing {f : Failure} (h : isReported f = true) (t : FileTree)
    (events : List Event) : refuse t events f =
      .printing t [] events .reported (Console.printParagraph (errorMarkup f.message)) := if_pos h

theorem ends_refuse {f : Failure} (h : isReported f = true) (t : FileTree) (events : List Event) :
    (refuse t events f).ending = .reported ∨
      ∃ fault, (refuse t events f).ending = .unshown fault ∧ (refuse t events f).output = [] := by
  rw [refuse_eq_printing h]
  cases Console.printParagraph (errorMarkup f.message) with
  | ok shown => exact .inl rfl
  | error fault => exact .inr ⟨fault, rfl, rfl⟩

theorem refuse_ofString {f : Failure} (hreported : isReported f = true) (hs : f.message = s)
    (hwrap : ¬ SeenPlain s → WrapsInFull s) (t : FileTree) (events : List Event) :
    ((refuse t events f).ending = .reported ↔ ∃ shown, paragraph (errorText s) = .ok shown) ∧
    ((refuse t events f).ending = .reported → withoutBlanks (refuse t events f).output =
      withoutBlanks ("Error:".toList ++ seen s.toList)) := by
  rw [refuse_eq_printing hreported, hs, errorMarkup_ofString, Console.printParagraph_ofString]
  cases hshown : paragraph (errorText s) with
  | error fault => exact ⟨⟨nofun, nofun⟩, nofun⟩
  | ok shown =>
    exact ⟨iff_of_true rfl ⟨shown, rfl⟩, fun _ => withoutBlanks_of_paragraph hwrap hshown⟩

theorem reports_refuse {f : Failure} (hreported : isReported f = true) (hquiet : IsQuiet f.message)
    (hwrap : ∀ s : String, f.message = s → ¬ SeenPlain s → WrapsInFull s) (t : FileTree)
    (events : List Event) : Reports t f.message (refuse t events f) := by
  refine ⟨tree_refuse _ _ _, exitCode_refuse _ _ _, ends_refuse hreported t events, ?_,
    fun s hs => (refuse_ofString hreported hs (hwrap s hs) t events).2⟩
  refine exists_congr fun s => and_congr_right fun hs => ?_
  obtain ⟨hending, houtput⟩ := refuse_ofString hreported hs (hwrap s hs) t events
  have hshown : ∀ c ∈ s.toList, Console.Markup.isControl c = false := by
    intro c hc
    by_contra hcontrol
    have hsmall : isControl (.char c) = true := by
      have hlt : c.toNat < 0x20 := by
        simp [Console.Markup.isControl] at hcontrol
        omega
      simp [isControl, CodePoint.toNat, hlt]
    rw [hs] at hquiet
    rw [CodePoint.char.inj (hquiet _ (Text.char_mem_ofString.2 hc) hsmall)] at hcontrol
    exact hcontrol (by decide)
  constructor
  · rintro ⟨hreport, hfull⟩
    rw [houtput hreport, withoutBlanks_append, withoutBlanks_append,
      List.append_cancel_left_eq] at hfull
    exact (Console.Markup.withoutBlanks_seen_eq_iff hshown).1 hfull
  · intro hverbatim
    have hreport := hending.2 (paragraph_errorText hverbatim.1)
    refine ⟨hreport, ?_⟩
    rw [houtput hreport, Console.Markup.seen_of_verbatim hverbatim hshown]

/-! ## Validation reports -/

theorem exists_intercalate (sep : List Char) {line : List Char} {lines : List (List Char)}
    (h : line ∈ lines) :
    ∃ before after, sep.intercalate lines = before ++ line ++ after := by
  induction lines with
  | nil => cases h
  | cons l lines ih =>
    cases lines with
    | nil =>
      obtain rfl := List.mem_singleton.1 h
      exact ⟨[], [], by simp⟩
    | cons next lines =>
      rw [List.intercalate_cons_cons]
      rcases List.mem_cons.1 h with rfl | h
      · exact ⟨[], sep ++ sep.intercalate (next :: lines), by simp⟩
      · obtain ⟨before, after, hrest⟩ := ih h
        exact ⟨l ++ sep ++ before, after, by simp [hrest]⟩

theorem toList_bracketed {lead opening closing : String} {head : Char} {tail : List Char}
    (hopening : opening.toList = ' ' :: '[' :: head :: tail) (hclosing : closing.toList = [']'])
    (a b c d e : String) :
    (lead ++ opening ++ a ++ b ++ c ++ d ++ e ++ closing).toList =
      lead.toList ++ [' '] ++
        '[' :: head :: (tail ++ a.toList ++ b.toList ++ c.toList ++ d.toList ++ e.toList) ++
        [']'] := by
  simp [String.toList_append, hopening, hclosing]

theorem bracket_not_mem_details {fault : Config.Fault} (h : '[' ∉ fault.input.excerpt.toList) :
    '[' ∉ "ype=".toList ++ fault.kind.code.toList ++ ", input_value=".toList ++
      fault.input.excerpt.toList ++ ", input_type=".toList ++ fault.input.typeName.toList := by
  have hcode : '[' ∉ fault.kind.code.toList := by
    unfold Config.FaultKind.code
    split <;> decide
  have htype : '[' ∉ fault.input.typeName.toList := by
    unfold Value.typeName
    split <;> decide
  simp only [List.mem_append, not_or]
  exact ⟨⟨⟨⟨⟨by decide, hcode⟩, by decide⟩, h⟩, by decide⟩, htype⟩

def invalidText (r : Config.Report) : String := "Configuration validation failed:\n" ++ r.message

theorem message_invalid (r : Config.Report) :
    (Failure.config (.invalid r)).message = invalidText r :=
  (Text.ofString_append _ r.message).symm

/-- A report on a value without a bracket in it is not literal: the brackets around its details make
a tag of them. -/
theorem not_literal_of_fault {r : Config.Report} {fault : Config.Fault} (h : fault ∈ r.faults)
    (hvalue : '[' ∉ fault.input.excerpt.toList) : ¬ Literal (invalidText r).toList := by
  obtain ⟨head, hmessage⟩ : ∃ head, r.message =
      "\n".intercalate (head :: r.faults.flatMap Config.Fault.lines) := ⟨_, rfl⟩
  obtain ⟨line, hline, start, body, hbody, hstart⟩ :
      ∃ line ∈ head :: r.faults.flatMap Config.Fault.lines, ∃ start body, '[' ∉ body ∧
        line.toList = start ++ '[' :: 't' :: body ++ [']'] := by
    have hopening : " [type=".toList = ' ' :: '[' :: 't' :: "ype=".toList := by decide
    exact ⟨_, .tail _ (List.mem_flatMap.2 ⟨fault, h, .tail _ (.head _)⟩), _, _,
      bracket_not_mem_details hvalue, toList_bracketed hopening (by decide) _ _ _ _ _⟩
  obtain ⟨before, after, hall⟩ :=
    exists_intercalate "\n".toList (List.mem_map_of_mem (f := String.toList) hline)
  have hsplit : (invalidText r).toList =
      "Configuration validation failed:\n".toList ++ before ++ start ++
        '[' :: 't' :: body ++ ']' :: after := by
    have hconfig : (invalidText r).toList =
        "Configuration validation failed:\n".toList ++ r.message.toList := String.toList_append
    rw [hconfig, hmessage, String.toList_intercalate, hall, hstart]
    simp only [List.append_assoc, List.cons_append, List.nil_append]
  rw [hsplit]
  exact Console.Markup.not_literal_of_tag (by decide) hbody

/-- Is the failure a report on a configuration that blames a value without an opening bracket? -/
def blamesPlainValue : Failure → Bool
  | .config (.invalid r) => r.faults.any fun fault => !fault.input.excerpt.toList.contains '['
  | _ => false

theorem not_literal_of_blamesPlainValue {f : Failure} (h : blamesPlainValue f = true) :
    ∃ s : String, f.message = s ∧ ¬ Literal s.toList := by
  unfold blamesPlainValue at h
  split at h
  · rename_i r
    obtain ⟨fault, hfault, hvalue⟩ := List.any_eq_true.1 h
    exact ⟨invalidText r, message_invalid r, not_literal_of_fault hfault (by simpa using hvalue)⟩
  · cases h

/-! ## Commands that fail -/

/-- How a command can fail before its work starts: its configuration cannot be resolved or its names
cannot be collected, or the names cannot be rendered. -/
inductive Command.Fails (t : FileTree) : Command → Failure → Prop
  | prepared {r : GenerateRequest} {events : List Event} {f : Failure} :
      prepare t r.options = (events, .error f) → Fails t (.generate r) f
  | rendered {r : GenerateRequest} {events : List Event} {p : Prepared} {e : ClassText.Fault} :
      prepare t r.options = (events, .ok p) →
      ClassText.render p.names p.config.generation = .error e → Fails t (.generate r) (.source e)
  | shown {o : Options} {events : List Event} {f : Failure} :
      prepare t o = (events, .error f) → Fails t (.showIndices o) f

theorem Command.Fails.run_eq {c : Command} {f : Failure} (h : c.Fails t f) (input : String) :
    ∃ events, c.run t input = refuse t events f := by
  cases h with
  | @prepared r events _ hprepare =>
    refine ⟨shownEvents r.verbose events, ?_⟩
    rw [Command.run, CommandLine.generate, hprepare]
  | @rendered r events p e hprepare hrender =>
    refine ⟨shownEvents r.verbose
      (events ++ [.rendering p.config.generation.packageName (distinct p.names)]), ?_⟩
    rw [Command.run, CommandLine.generate, hprepare]
    dsimp only
    rw [hrender]
  | @shown o events _ hprepare =>
    refine ⟨shownEvents false events, ?_⟩
    rw [Command.run, CommandLine.showIndices, hprepare]

theorem reports_of_fails {args : List Text} {c : Command} {f : Failure}
    (hargs : Command.ofArguments args = .ok c) (hfails : c.Fails t f)
    (hreported : isReported f = true) (hquiet : IsQuiet f.message)
    (hwrap : ∀ s : String, f.message = s → ¬ SeenPlain s → WrapsInFull s) (input : String) :
    Reports t f.message (run t args input) := by
  obtain ⟨events, hrun⟩ := hfails.run_eq input
  rw [run, hargs]
  dsimp only
  rw [hrun]
  exact reports_refuse hreported hquiet hwrap t events

/-- **Which errors are reported in full.** On any tree, let a command fail before its work starts,
over something that is reported and whose message has no control characters but line feeds; if
joiners, selectors or tabs are seen of it, let wrapping change white space only. The run changes
nothing, ends with exit code 1, and reports the whole message exactly if this is a string that
stands for itself: no emoji code, no bracket that may start a tag, none behind a backslash. Of any
other message something is missing, or the run fails over it without a word. A report that blames a
value without an opening bracket is never literal. -/
theorem failure_reports {args : List Text} {c : Command} {f : Failure}
    (hargs : Command.ofArguments args = .ok c) (hfails : c.Fails t f)
    (hreported : isReported f = true) (hquiet : IsQuiet f.message)
    (hwrap : ∀ s : String, f.message = s → ¬ SeenPlain s → WrapsInFull s) (input : String) :
    Reports t f.message (run t args input) ∧
      (blamesPlainValue f = true → ∃ s : String, f.message = s ∧ ¬ Literal s.toList) :=
  ⟨reports_of_fails hargs hfails hreported hquiet hwrap input, not_literal_of_blamesPlainValue⟩

def unnamed : FileTree where
  current := ["work"]
  items := [(["work", "a.yaml"], .file (Text.Utf8.encode "generation: \x7b\x7d\n"))]

def unnamedMessage : String :=
  "Configuration validation failed:\n1 validation error for " ++
    ("BRGenConfig\ngeneration.package_name\n  Field required " ++
    ("[type=missing, input_value=\x7b\x7d, input_type=dict]\n" ++
    ("    For further information visit " ++ "https://errors.pydantic.dev/2.14/v/missing")))

def lineFor (file : String) : List Text := ["generate", "-c", file]

def requestFor (file : String) : GenerateRequest :=
  ⟨⟨some file, none, [], none, none, none⟩, false, false⟩

/-- The command line for a file fails over a message that is reported. -/
structure FailsOver (t : FileTree) (file message : String) (f : Failure) : Prop where
  arguments : Command.ofArguments (lineFor file) = .ok (.generate (requestFor file))
  fails : Command.Fails t (.generate (requestFor file)) f
  reported : isReported f = true
  message_eq : f.message = message
  quiet : IsQuiet f.message

theorem exists_failsOver (t : FileTree) (file message : String) (blames : Bool)
    (hargs : (Command.ofArguments (lineFor file)).toOption = some (.generate (requestFor file)))
    (hquiet : IsQuiet message)
    (h : (error? (prepare t (requestFor file).options).2).map
      (fun f => (isReported f, blamesPlainValue f, f.message)) =
        some (true, blames, (message : Text))) :
    ∃ f, FailsOver t file message f ∧ blamesPlainValue f = blames := by
  obtain ⟨f, hf, hall⟩ := Option.map_eq_some_iff.1 h
  simp only [Prod.mk.injEq] at hall
  exact ⟨f, ⟨ok_of_toOption hargs, .prepared (Prod.ext rfl (error_of_error? hf)), hall.1,
    hall.2.2, hall.2.2 ▸ hquiet⟩, hall.2.1⟩

-- the parts of the message are joined as lists before the kernel reads them
theorem isQuiet_unnamedMessage : IsQuiet unnamedMessage := by
  unfold IsQuiet unnamedMessage
  simp only [Text.ofString_append]
  decide +kernel

theorem seenPlain_unnamedMessage : SeenPlain unnamedMessage := by
  unfold SeenPlain unnamedMessage
  simp only [String.toList_append]
  decide +kernel

theorem failsOver_unnamed :
    ∃ f, FailsOver unnamed "a.yaml" unnamedMessage f ∧ blamesPlainValue f = true :=
  exists_failsOver _ _ _ true (by decide) isQuiet_unnamedMessage (by decide +kernel)

theorem FailsOver.wraps {file message : String} {f : Failure} (h : FailsOver t file message f)
    (hplain : SeenPlain message) (s : String) (hs : f.message = s) (hnot : ¬ SeenPlain s) :
    WrapsInFull s := by
  rw [h.message_eq, Text.ofString_inj] at hs
  exact absurd (hs ▸ hplain) hnot

/-- The report on a field that is missing is not in full; that a file is missing is. -/
theorem failure_reports_unnamed :
    (∃ f, FailsOver unnamed "a.yaml" unnamedMessage f ∧ SeenPlain unnamedMessage ∧
      blamesPlainValue f = true ∧
      Reports unnamed f.message (run unnamed (lineFor "a.yaml") "") ∧
      ¬ Literal unnamedMessage.toList) ∧
    ∃ f, FailsOver unnamed "b.yaml" "Configuration file not found: b.yaml" f ∧
      InFull f.message (run unnamed (lineFor "b.yaml") "") := by
  constructor
  · obtain ⟨f, hf, hblames⟩ := failsOver_unnamed
    have h := failure_reports hf.arguments hf.fails hf.reported hf.quiet
      (hf.wraps seenPlain_unnamedMessage) ""
    obtain ⟨s, hs, hliteral⟩ := h.2 hblames
    rw [hf.message_eq, Text.ofString_inj] at hs
    exact ⟨f, hf, seenPlain_unnamedMessage, hblames, h.1, hs ▸ hliteral⟩
  · obtain ⟨f, hf, -⟩ := exists_failsOver unnamed "b.yaml"
      "Configuration file not found: b.yaml" false (by decide) (by decide +kernel)
      (by decide +kernel)
    have hverbatim : Verbatim "Configuration file not found: b.yaml".toList :=
      ⟨Console.Markup.literal_of_no_bracket (by decide), by decide +kernel⟩
    have h := failure_reports hf.arguments hf.fails hf.reported hf.quiet
      (hf.wraps (by decide +kernel)) ""
    exact ⟨f, hf, h.1.full_iff.2 ⟨_, hf.message_eq, hverbatim⟩⟩

/-- Three errors that are not reported in full: one loses what stands in its brackets; over the
next, about a file that is missing, the run fails without any output; and from the last an emoji
takes two colons. -/
theorem failure_not_in_full :
    (∃ f, FailsOver unnamed "a.yaml" unnamedMessage f ∧
      ¬ InFull f.message (run unnamed (lineFor "a.yaml") "")) ∧
    (∃ f, FailsOver unnamed "[/red].yaml" "Configuration file not found: [/red].yaml" f ∧
      (run unnamed (lineFor "[/red].yaml") "").output = [] ∧
      (run unnamed (lineFor "[/red].yaml") "").ending.complaint =
        "closing tag '[/red]' at position 58 doesn't match any open tag") ∧
    ∃ f, FailsOver unnamed ":+1:.yaml" "Configuration file not found: :+1:.yaml" f ∧
      ¬ InFull f.message (run unnamed (lineFor ":+1:.yaml") "") := by
  refine ⟨?_, ?_, ?_⟩
  · obtain ⟨f, hf, hblames⟩ := failsOver_unnamed
    refine ⟨f, hf, fun hfull => ?_⟩
    have h := reports_of_fails hf.arguments hf.fails hf.reported hf.quiet
      (hf.wraps seenPlain_unnamedMessage) ""
    obtain ⟨s, hs, hverbatim⟩ := h.full_iff.1 hfull
    obtain ⟨s', hs', hliteral⟩ := not_literal_of_blamesPlainValue hblames
    rw [hs, Text.ofString_inj] at hs'
    exact hliteral (hs' ▸ hverbatim.1)
  · obtain ⟨f, hf, -⟩ := exists_failsOver unnamed "[/red].yaml"
      "Configuration file not found: [/red].yaml" false (by decide) (by decide +kernel)
      (by decide +kernel)
    exact ⟨f, hf, by decide +kernel, by decide +kernel⟩
  · obtain ⟨f, hf, -⟩ := exists_failsOver unnamed ":+1:.yaml"
      "Configuration file not found: :+1:.yaml" false (by decide) (by decide +kernel)
      (by decide +kernel)
    refine ⟨f, hf, fun hfull => ?_⟩
    have h := reports_of_fails hf.arguments hf.fails hf.reported hf.quiet
      (hf.wraps (by decide +kernel)) ""
    obtain ⟨s, hs, hverbatim⟩ := h.full_iff.1 hfull
    rw [hf.message_eq, Text.ofString_inj] at hs
    obtain rfl := hs
    exact absurd hverbatim.2 (by decide +kernel)

end CommandLine

end BindingIndex
