import BindingIndex.Proofs.Console.Emoji
import BindingIndex.Proofs.Console.Styles

/-!
# Markup around a text

A message encloses a text in a pair of tags: `[green]` before it and `[/green]` behind. A text
without an opening bracket has no tag in it, whatever else it holds, backslashes included as long as
none stands right before the closing tag (`piecesFrom_before_text`). Any other text has the tags
that it has by itself (`exists_piecesFrom_append`), and if these only open styles, they fail nowhere
and stay open (`readFrom_of_onlyOpen`). So the two tags match, and the message is shown
(`paragraph_of_pieces`).
-/

namespace BindingIndex.Console.Markup

/-! ## Pieces -/

theorem piecesFrom_text {c : Char} (hc : c ≠ '\\') (hb : c ≠ '[') (position slashes : Nat)
    (rest : List Char) :
    piecesFrom position slashes (c :: rest) =
      .text false (backslashes slashes ++ [c]) :: piecesFrom (position + 1) 0 rest := by
  rw [piecesFrom, if_neg hc, if_neg hb]

theorem piecesFrom_backslash (position slashes : Nat) (rest : List Char) :
    piecesFrom position slashes ('\\' :: rest) = piecesFrom (position + 1) (slashes + 1) rest := by
  rw [piecesFrom, if_pos rfl]

theorem piecesFrom_open (position slashes : Nat) (s : List Char) :
    piecesFrom position slashes ('[' :: s) =
      match tag? s with
      | none => .text false (backslashes (slashes - 1) ++ ['[']) :: piecesFrom (position + 1) 0 s
      | some (body, after) =>
        if slashes % 2 = 1 then
          .text true (backslashes (slashes / 2) ++ '[' :: body ++ [']']) ::
            piecesFrom (position + body.length + 2) 0 after
        else
          .text true (backslashes (slashes / 2)) :: .tag position body ::
            piecesFrom (position + body.length + 2) 0 after := by
  rw [piecesFrom, if_neg (by decide), if_pos rfl]
  split
  · rename_i h
    simp only [h]
  · rename_i body after h
    simp only [h]

theorem piecesFrom_tag {s body after : List Char} (h : tag? s = some (body, after))
    (position : Nat) :
    piecesFrom position 0 ('[' :: s) = .text true [] :: .tag position body ::
      piecesFrom (position + body.length + 2) 0 after := by
  rw [piecesFrom_open, h]
  rfl

/-- A text without an opening bracket has no tag in it; it may end with backslashes that are still
to be counted. -/
theorem piecesFrom_append {s : List Char} (hs : '[' ∉ s) (position slashes : Nat) :
    ∃ (texts : List (List Char)) (slashes' : Nat), ∀ rest, piecesFrom position slashes (s ++ rest) =
      texts.map (Piece.text false) ++ piecesFrom (position + s.length) slashes' rest := by
  induction s generalizing position slashes with
  | nil => exact ⟨[], slashes, fun rest => rfl⟩
  | cons d s ih =>
    rw [List.mem_cons, not_or] at hs
    have hlen : position + 1 + s.length = position + (d :: s).length := by
      rw [List.length_cons]
      omega
    by_cases hd : d = '\\'
    · -- a backslash is only counted: it shows up with the next character
      subst hd
      obtain ⟨texts, slashes', htexts⟩ := ih hs.2 (position + 1) (slashes + 1)
      rw [hlen] at htexts
      exact ⟨texts, slashes', fun rest => by rw [List.cons_append, piecesFrom_backslash, htexts]⟩
    · obtain ⟨texts, slashes', htexts⟩ := ih hs.2 (position + 1) 0
      rw [hlen] at htexts
      refine ⟨(backslashes slashes ++ [d]) :: texts, slashes', fun rest => ?_⟩
      rw [List.cons_append, piecesFrom_text hd (Ne.symm hs.1), htexts]
      rfl

/-- Up to a character that is no backslash, it is text and nothing is left to be counted. -/
theorem piecesFrom_before_text {s : List Char} (hs : '[' ∉ s) {c : Char} (hc : c ≠ '\\')
    (hb : c ≠ '[') (position slashes : Nat) (rest : List Char) :
    ∃ texts : List (List Char), piecesFrom position slashes (s ++ c :: rest) =
      texts.map (Piece.text false) ++ piecesFrom (position + s.length + 1) 0 rest := by
  obtain ⟨texts, slashes', htexts⟩ := piecesFrom_append hs position slashes
  refine ⟨texts ++ [backslashes slashes' ++ [c]], ?_⟩
  rw [htexts, piecesFrom_text hc hb, List.map_append, List.append_assoc]
  rfl

theorem piecesFrom_no_bracket {s : List Char} (hs : '[' ∉ s) (position slashes : Nat) :
    ∃ texts : List (List Char), piecesFrom position slashes s = texts.map (Piece.text false) := by
  obtain ⟨texts, slashes', htexts⟩ := piecesFrom_append hs position slashes
  refine ⟨texts ++ [backslashes slashes'], ?_⟩
  have hall := htexts []
  rw [List.append_nil, piecesFrom] at hall
  rw [hall, List.map_append]
  rfl

/-! ## Tags -/

theorem toBracket?_append {body : List Char} (h : ∀ c ∈ body, c ≠ '[' ∧ c ≠ ']')
    (after : List Char) : toBracket? (body ++ ']' :: after) = some (body, after) := by
  induction body with
  | nil => rfl
  | cons c body ih =>
    obtain ⟨hopen, hclose⟩ := h c (.head _)
    rw [List.cons_append, toBracket?, if_neg hclose, if_neg hopen,
      ih fun d hd => h d (.tail _ hd)]
    rfl

theorem tag?_append {c : Char} {body : List Char} (hc : isTagStart c = true)
    (h : ∀ d ∈ body, d ≠ '[' ∧ d ≠ ']') (after : List Char) :
    tag? (c :: body ++ ']' :: after) = some (c :: body, after) := by
  rw [List.cons_append, tag?, if_pos hc, toBracket?_append h]
  rfl

theorem toBracket?_append_of_some {s body after : List Char}
    (h : toBracket? s = some (body, after)) (more : List Char) :
    toBracket? (s ++ more) = some (body, after ++ more) := by
  induction s generalizing body with
  | nil => cases h
  | cons c s ih =>
    rw [toBracket?] at h
    rw [List.cons_append, toBracket?]
    split at h
    · rename_i hc
      cases h
      rw [if_pos hc]
    · rename_i hc
      rw [if_neg hc]
      split at h
      · cases h
      · rename_i hopen
        obtain ⟨⟨body', after'⟩, hs, heq⟩ := Option.map_eq_some_iff.1 h
        cases heq
        rw [if_neg hopen, ih hs]
        rfl

theorem toBracket?_append_of_none {s more : List Char} (h : toBracket? s = none)
    (hmore : toBracket? more = none) : toBracket? (s ++ more) = none := by
  induction s with
  | nil => exact hmore
  | cons c s ih =>
    rw [toBracket?] at h
    rw [List.cons_append, toBracket?]
    split at h
    · cases h
    · rename_i hc
      rw [if_neg hc]
      split at h
      · rename_i hopen
        rw [if_pos hopen]
      · rename_i hopen
        rw [if_neg hopen, ih (Option.map_eq_none_iff.1 h)]
        rfl

theorem tag?_append_of_some {s body after : List Char} (h : tag? s = some (body, after))
    (more : List Char) : tag? (s ++ more) = some (body, after ++ more) := by
  cases s with
  | nil => cases h
  | cons c s =>
    rw [tag?] at h
    rw [List.cons_append, tag?]
    split at h
    · rename_i hc
      obtain ⟨⟨body', after'⟩, hs, heq⟩ := Option.map_eq_some_iff.1 h
      cases heq
      rw [if_pos hc, toBracket?_append_of_some hs]
      rfl
    · cases h

theorem tag?_append_of_none {s more : List Char} {c : Char} (h : tag? s = none)
    (hc : isTagStart c = false) (hmore : toBracket? (c :: more) = none) :
    tag? (s ++ c :: more) = none := by
  cases s with
  | nil => rw [List.nil_append, tag?, if_neg (by simp [hc])]
  | cons d s =>
    rw [tag?] at h
    rw [List.cons_append, tag?]
    split at h
    · rename_i hd
      rw [if_pos hd, toBracket?_append_of_none (Option.map_eq_none_iff.1 h) hmore]
      rfl
    · rename_i hd
      rw [if_neg hd]

/-- The bodies of the tags in markup. -/
def tags (s : List Char) : List (List Char) := (pieces s).filterMap Piece.body?

theorem filterMap_body?_texts (texts : List (List Char)) :
    (texts.map (Piece.text false)).filterMap Piece.body? = [] := by
  simp [List.filterMap_map, Piece.body?]

/-- **Markup inside a message** has its own tags, if what follows does not close a bracket of it. -/
theorem exists_piecesFrom_append {c : Char} {more : List Char} (hslash : c ≠ '\\')
    (hbracket : c ≠ '[') (hc : isTagStart c = false) (hmore : toBracket? (c :: more) = none)
    (position other slashes : Nat) (s : List Char) :
    ∃ ps position', piecesFrom other slashes (s ++ c :: more) =
        ps ++ piecesFrom position' 0 more ∧
      ps.filterMap Piece.body? = (piecesFrom position slashes s).filterMap Piece.body? := by
  fun_induction piecesFrom position slashes s generalizing other with
  | case1 position slashes =>
    refine ⟨[.text false (backslashes slashes ++ [c])], other + 1, ?_, rfl⟩
    rw [List.nil_append, piecesFrom_text hslash hbracket]
    rfl
  | case2 position slashes rest ih =>
    obtain ⟨ps, position', hps, htags⟩ := ih (other + 1)
    exact ⟨ps, position', by rw [List.cons_append, piecesFrom_backslash, hps], htags⟩
  | case3 position slashes rest htag _ ih =>
    obtain ⟨ps, position', hps, htags⟩ := ih (other + 1)
    refine ⟨.text false (backslashes (slashes - 1) ++ ['[']) :: ps, position', ?_, htags⟩
    rw [List.cons_append, piecesFrom_open, tag?_append_of_none htag hc hmore]
    dsimp only
    rw [hps, List.cons_append]
  | case4 position slashes rest body after htag _ next hodd _ ih =>
    obtain ⟨ps, position', hps, htags⟩ := ih (other + body.length + 2)
    refine ⟨.text true (backslashes (slashes / 2) ++ '[' :: body ++ [']']) :: ps, position', ?_,
      htags⟩
    rw [List.cons_append, piecesFrom_open, tag?_append_of_some htag]
    dsimp only
    rw [if_pos hodd, hps, List.cons_append]
  | case5 position slashes rest body after htag _ next heven _ ih =>
    obtain ⟨ps, position', hps, htags⟩ := ih (other + body.length + 2)
    refine ⟨.text true (backslashes (slashes / 2)) :: .tag other body :: ps, position', ?_,
      congrArg (body :: ·) htags⟩
    rw [List.cons_append, piecesFrom_open, tag?_append_of_some htag]
    dsimp only
    rw [if_neg heven, hps, List.cons_append, List.cons_append]
  | case6 position slashes d rest hd hopen ih =>
    obtain ⟨ps, position', hps, htags⟩ := ih (other + 1)
    refine ⟨.text false (backslashes slashes ++ [d]) :: ps, position', ?_, htags⟩
    rw [List.cons_append, piecesFrom_text hd hopen, hps, List.cons_append]

/-! ## Tags that only open -/

/-- The tag opens a style, and one that can be looked up. -/
def Opens (body : List Char) : Prop :=
  (nameAndValue body).1.head? ≠ some '/' ∧
    ∃ style, normalName (nameAndValue body).1 = .ok style ∧
      Known (OpenTag.span ⟨0, style, (nameAndValue body).2⟩ 0).style

/-- No tag among the pieces does anything but open a style. -/
def OnlyOpen (ps : List Piece) : Prop := ∀ body ∈ ps.filterMap Piece.body?, Opens body

theorem OnlyOpen.withEmoji {ps : List Piece} (h : OnlyOpen ps) : OnlyOpen (withEmoji ps) := by
  rwa [OnlyOpen, filterMap_body?_withEmoji]

theorem onlyOpen_texts (texts : List (List Char)) : OnlyOpen (texts.map (Piece.text false)) := by
  intro body hbody
  rw [filterMap_body?_texts] at hbody
  cases hbody

theorem readFrom_text (offset : Nat) (opened : List OpenTag) (alone : Bool) (s : List Char)
    (more : List Piece) :
    readFrom offset opened (.text alone s :: more) =
      (readFrom (offset + (s.filter (!isControl ·)).length) opened more).map fun (text, spans) =>
        (s.filter (!isControl ·) ++ text, spans) := by
  rw [readFrom]
  cases readFrom (offset + (s.filter (!isControl ·)).length) opened more <;> rfl

theorem readFrom_opens {body : List Char} {style : String}
    (hslash : (nameAndValue body).1.head? ≠ some '/')
    (hstyle : normalName (nameAndValue body).1 = .ok style) (offset position : Nat)
    (opened : List OpenTag) (more : List Piece) :
    readFrom offset opened (.tag position body :: more) =
      readFrom offset (⟨offset, style, (nameAndValue body).2⟩ :: opened) more := by
  rw [readFrom]
  split
  · rename_i heq
    rw [heq] at hslash
    exact absurd rfl hslash
  · rename_i heq
    rw [heq] at hstyle
    rw [heq, hstyle]
    rfl

def AllKnown (opened : List OpenTag) : Prop := ∀ t ∈ opened, ∀ stop, Known (t.span stop).style

theorem AllKnown.append {opened more : List OpenTag} (h : AllKnown opened) (hmore : AllKnown more) :
    AllKnown (opened ++ more) := fun t ht => (List.mem_append.1 ht).elim (h t) (hmore t)

/-- **Tags that only open** are still open after what they cover, and fail nowhere. -/
theorem readFrom_of_onlyOpen {ps : List Piece} (h : OnlyOpen ps) (offset : Nat)
    (opened : List OpenTag) :
    ∃ offset' shown new, AllKnown new ∧ ∀ more, readFrom offset opened (ps ++ more) =
      (readFrom offset' (new ++ opened) more).map fun (text, spans) => (shown ++ text, spans) := by
  induction ps generalizing offset opened with
  | nil =>
    refine ⟨offset, [], [], (fun t ht => nomatch ht), fun more => ?_⟩
    rw [List.nil_append, List.nil_append]
    cases readFrom offset opened more <;> rfl
  | cons p ps ih =>
    cases p with
    | text alone s =>
      obtain ⟨offset', shown, new, hnew, hrest⟩ :=
        ih h (offset + (s.filter (!isControl ·)).length) opened
      refine ⟨offset', s.filter (!isControl ·) ++ shown, new, hnew, fun more => ?_⟩
      rw [List.cons_append, readFrom_text, hrest]
      cases readFrom offset' (new ++ opened) more with
      | error f => rfl
      | ok r => simp [Except.map]
    | tag position body =>
      obtain ⟨hslash, style, hstyle, hknown⟩ := h body (.head _)
      obtain ⟨offset', shown, new, hnew, hrest⟩ := ih (fun b hb => h b (.tail _ hb)) offset
        (⟨offset, style, (nameAndValue body).2⟩ :: opened)
      refine ⟨offset', shown, new ++ [⟨offset, style, (nameAndValue body).2⟩], ?_, fun more => ?_⟩
      · refine List.forall_mem_append.2 ⟨hnew, fun t ht stop => ?_⟩
        rw [List.mem_singleton.1 ht]
        exact hknown
      · rw [List.cons_append, readFrom_opens hslash hstyle, hrest, List.append_assoc]
        rfl

theorem readFrom_all {ps : List Piece} (h : OnlyOpen ps) {opened : List OpenTag}
    (hopened : AllKnown opened) (offset : Nat) :
    ∃ shown spans, readFrom offset opened ps = .ok (shown, spans) ∧ ∀ s ∈ spans, Known s.style := by
  obtain ⟨offset', shown, new, hnew, hread⟩ := readFrom_of_onlyOpen h offset opened
  have hall := hread []
  rw [List.append_nil] at hall
  refine ⟨shown ++ [], (new ++ opened).map fun t => t.span offset', hall.trans rfl, fun s hs => ?_⟩
  obtain ⟨t, ht, rfl⟩ := List.mem_map.1 hs
  exact (hnew.append hopened) t ht _

/-! ## Pairs of tags -/

/-- A style that a pair of tags can name: it is its own normal name, and nothing else could be meant
by it. -/
structure IsTagName (style : List Char) : Prop where
  start : ∃ c body, style = c :: body ∧ isTagStart c = true ∧ c ≠ '/' ∧ c ≠ '@'
  plain : ∀ c ∈ style, c ≠ '[' ∧ c ≠ ']' ∧ c ≠ '='
  trimmed : Text.trim style = style
  normal : normalName style = .ok (String.ofList style)

theorem plain_of_all {style : List Char}
    (h : style.all (fun c => c ≠ '[' && c ≠ ']' && c ≠ '=') = true) :
    ∀ c ∈ style, c ≠ '[' ∧ c ≠ ']' ∧ c ≠ '=' := by
  intro c hc
  simpa [and_assoc] using List.all_eq_true.1 h c hc

theorem IsTagName.tag?_opening {style : List Char} (h : IsTagName style) (after : List Char) :
    tag? (style ++ ']' :: after) = some (style, after) := by
  obtain ⟨c, body, rfl, hc, -, -⟩ := h.start
  have hplain : ∀ d ∈ body, d ≠ '[' ∧ d ≠ ']' := fun d hd =>
    (h.plain d (.tail _ hd)).imp_right And.left
  exact tag?_append hc hplain after

theorem IsTagName.tag?_closing {style : List Char} (h : IsTagName style) (after : List Char) :
    tag? ('/' :: style ++ ']' :: after) = some ('/' :: style, after) :=
  tag?_append (by decide) (fun d hd => (h.plain d hd).imp_right And.left) after

theorem nameAndValue_of_plain {body : List Char} (h : ∀ c ∈ body, c ≠ '=') :
    nameAndValue body = (body, none) := by
  have hne : ∀ c ∈ body, decide (c ≠ '=') = true := fun c hc => decide_eq_true (h c hc)
  have htake : (body ++ []).takeWhile (· ≠ '=') = body ++ [] := List.takeWhile_append_of_pos hne
  have hdrop : (body ++ []).dropWhile (· ≠ '=') = [] := List.dropWhile_append_of_pos hne
  rw [List.append_nil] at htake hdrop
  rw [nameAndValue, htake, hdrop]
  rfl

theorem readFrom_open {style : List Char} (h : IsTagName style) (offset position : Nat)
    (opened : List OpenTag) (more : List Piece) :
    readFrom offset opened (.tag position style :: more) =
      readFrom offset (⟨offset, String.ofList style, none⟩ :: opened) more := by
  obtain ⟨c, body, hstyle, -, hslash, -⟩ := h.start
  have hname := nameAndValue_of_plain fun d hd => (h.plain d hd).2.2
  have hstart : (nameAndValue style).1.head? ≠ some '/' := by rw [hname]; simp [hstyle, hslash]
  have hnormal : normalName (nameAndValue style).1 = .ok (String.ofList style) := by
    rw [hname]
    exact h.normal
  have hopens := readFrom_opens hstart hnormal offset position opened more
  rwa [hname] at hopens

theorem exists_closeNamed? {style : String} {opened : List OpenTag}
    (h : ∃ t ∈ opened, t.style = style) :
    ∃ t rest, closeNamed? style opened = some (t, rest) ∧ t.style = style ∧ t ∈ opened ∧
      rest.length + 1 = opened.length ∧ ∀ u ∈ rest, u ∈ opened := by
  induction opened with
  | nil =>
    obtain ⟨t, ht, -⟩ := h
    cases ht
  | cons u opened ih =>
    rw [closeNamed?]
    by_cases hu : u.style = style
    · rw [if_pos hu]
      exact ⟨u, opened, rfl, hu, .head _, rfl, fun v hv => .tail _ hv⟩
    · obtain ⟨t, ht, hstyle⟩ := h
      have hmem : t ∈ opened := (List.mem_cons.1 ht).resolve_left (by rintro rfl; exact hu hstyle)
      obtain ⟨found, rest, hclose, hfound, hin, hlength, hrest⟩ := ih ⟨t, hmem, hstyle⟩
      rw [if_neg hu, hclose]
      refine ⟨found, u :: rest, rfl, hfound, .tail _ hin, by simp [hlength], fun v hv => ?_⟩
      rcases List.mem_cons.1 hv with rfl | hv
      · exact .head _
      · exact .tail _ (hrest v hv)

theorem readFrom_close {style : List Char} (h : IsTagName style) {opened : List OpenTag}
    (hknown : AllKnown opened) (hopen : ∃ t ∈ opened, t.style = String.ofList style)
    (offset position : Nat) :
    ∃ opened' span, opened'.length + 1 = opened.length ∧ AllKnown opened' ∧ Known span.style ∧
      ∀ more, readFrom offset opened (.tag position ('/' :: style) :: more) =
        (readFrom offset opened' more).map fun (text, spans) => (text, span :: spans) := by
  obtain ⟨c, body, hstyle, -, -, hat⟩ := h.start
  have hname : nameAndValue ('/' :: style) = ('/' :: style, none) :=
    nameAndValue_of_plain (List.forall_mem_cons.2 ⟨by decide, fun d hd => (h.plain d hd).2.2⟩)
  obtain ⟨t, opened', hclose, ht, hmem, hlength, hrest⟩ := exists_closeNamed? hopen
  have hclosed : closed position ('/' :: style) style opened = .ok (t, opened') := by
    unfold closed
    rw [h.trimmed, hstyle]
    dsimp only
    rw [← hstyle, h.normal]
    simp only [bind, Except.bind, hclose]
  have hspan : closingSpan t offset = .ok (t.span offset) := by
    have haction : t.isAction = false := by
      rw [OpenTag.isAction, ht, String.toList_ofList, hstyle]
      simp [hat]
    rw [closingSpan, haction]
    rfl
  refine ⟨opened', t.span offset, hlength, fun u hu => hknown u (hrest u hu),
    hknown t hmem offset, fun more => ?_⟩
  rw [readFrom, hname]
  simp only [hclosed, hspan, bind, Except.bind]
  cases readFrom offset opened' more <;> rfl

theorem allKnown_single {style : List Char} (h : IsTagName style) (offset : Nat) :
    AllKnown [⟨offset, String.ofList style, none⟩] := by
  intro t ht stop
  rw [List.mem_singleton.1 ht]
  refine ⟨String.ofList style, ?_⟩
  show normalName (String.ofList style).toList = _
  rw [String.toList_ofList]
  exact h.normal

/-- **A pair of tags** gives its style to what is between, whatever other tags open there. -/
theorem readFrom_pair {style : List Char} (h : IsTagName style) {inside behind : List Piece}
    (hinside : OnlyOpen inside) (hbehind : OnlyOpen behind) (offset first second : Nat) :
    ∃ shown spans, readFrom offset [] (.text true [] :: .tag first style ::
        (inside ++ .tag second ('/' :: style) :: behind)) = .ok (shown, spans) ∧
      ∀ s ∈ spans, Known s.style := by
  obtain ⟨offset', shown, new, hnew, hread⟩ := readFrom_of_onlyOpen hinside offset
    [⟨offset, String.ofList style, none⟩]
  obtain ⟨opened, span, -, hopened, hspan, hclose⟩ := readFrom_close h
    (hnew.append (allKnown_single h offset))
    ⟨⟨offset, String.ofList style, none⟩, by simp, rfl⟩ offset' second
  obtain ⟨shown', spans, hrest, hspans⟩ := readFrom_all hbehind hopened offset'
  refine ⟨shown ++ shown', span :: spans, ?_, List.forall_mem_cons.2 ⟨hspan, hspans⟩⟩
  rw [readFrom_text, List.filter_nil, List.length_nil, Nat.add_zero, readFrom_open h, hread, hclose,
    hrest]
  rfl

/-! ## Messages -/

theorem withEmoji_pair (style body : List Char) (first second : Nat) (inside behind : List Piece) :
    withEmoji (.text true [] :: .tag first style :: (inside ++ .tag second body :: behind)) =
      .text true [] :: .tag first style ::
        (withEmoji inside ++ .tag second body :: withEmoji behind) := by
  have hempty : withEmoji [.text true []] = [.text true []] := by
    simp [withEmoji, joined, Piece.withEmoji]
  rw [← withEmoji_append_tag inside]
  conv => rhs; rw [← List.singleton_append, ← hempty]
  exact withEmoji_append_tag [.text true []] first style _

/-- **A message in tags is shown** if they match and all others only open a style. -/
theorem paragraph_of_pieces {style : List Char} (h : IsTagName style) {inside behind : List Piece}
    (hinside : OnlyOpen inside) (hbehind : OnlyOpen behind) {markup : String} {second : Nat}
    (hpieces : pieces markup.toList = .text true [] :: .tag 0 style ::
      (inside ++ .tag second ('/' :: style) :: behind)) :
    ∃ shown, paragraph markup = .ok shown := by
  obtain ⟨shown, spans, hread, hspans⟩ := readFrom_pair h hinside.withEmoji hbehind.withEmoji
    0 0 second
  rw [← withEmoji_pair, ← hpieces] at hread
  have hmarkup : read markup.toList =
      .ok ⟨shown, spans.reverse.mergeSort fun s t => s.start ≤ t.start⟩ := by
    rw [read, hread]
    rfl
  refine paragraph_of_read hmarkup fun s hs => hspans s ?_
  exact List.mem_reverse.1 (List.mem_mergeSort.1 hs)

end BindingIndex.Console.Markup
