import BindingIndex.Console.Action
import BindingIndex.Console.Emoji
import BindingIndex.Console.Style
import BindingIndex.Console.StyledText

/-!
# Markup

Console text carries tags in square brackets, `[bold]` opens a style and `[/bold]` or `[/]` closes
one. What is not a tag is text, in which emoji take the place of their codes. Without colors a tag
shows nothing, but every closing tag still has to match an open one, and what a tag covers is a span
of the text.

* `Markup.tag?`: where a bracket starts a tag.
* `Markup.pieces`: a text cut into tags and what is between them.
* `Markup.withEmoji`: the pieces with emoji for their codes.
* `Markup.read`: the styled text that markup stands for.
* `Markup.checkStyles`: whether every style of a text can be looked up.
-/

namespace BindingIndex.Console.Markup

inductive Fault where
  /-- No open tag has the style that a closing tag names. -/
  | unmatched (body : List Char) (position : Nat)
  /-- No tag is open where one without a name is closed. -/
  | nothingToClose (position : Nat)
  | action (f : Action.Fault)
  | component (f : ComponentFault)
  deriving DecidableEq, Repr

def Fault.message : Fault → String
  | unmatched body p =>
    "closing tag '[" ++ String.ofList body ++ "]' at position " ++ toString p ++
      " doesn't match any open tag"
  | nothingToClose p => "closing tag '[/]' at position " ++ toString p ++ " has nothing to close"
  | action f => f.message
  | component f => f.message

/-! ## Tags -/

def isTagStart (c : Char) : Bool :=
  ('a' ≤ c && c ≤ 'z') || c = '#' || c = '/' || c = '@'

/-- Everything up to a closing bracket, and what follows it; no other bracket may open before. -/
def toBracket? : List Char → Option (List Char × List Char)
  | [] => none
  | c :: rest =>
    if c = ']' then some ([], rest)
    else if c = '[' then none
    else (toBracket? rest).map fun (body, after) => (c :: body, after)

/-- The body of the tag that starts after an opening bracket, and what follows its end. -/
def tag? : List Char → Option (List Char × List Char)
  | [] => none
  | c :: rest =>
    if isTagStart c then (toBracket? rest).map fun (body, after) => (c :: body, after) else none

theorem toBracket?_length {s body after : List Char} (h : toBracket? s = some (body, after)) :
    after.length < s.length := by
  induction s generalizing body with
  | nil => simp [toBracket?] at h
  | cons c rest ih =>
    unfold toBracket? at h
    split at h
    · obtain ⟨-, rfl⟩ := by simpa using h
      simp
    · split at h
      · simp at h
      · obtain ⟨⟨b, a⟩, hr, hb⟩ := Option.map_eq_some_iff.1 h
        obtain ⟨-, rfl⟩ := by simpa using hb
        have := ih hr
        simp
        omega

theorem tag?_length {s body after : List Char} (h : tag? s = some (body, after)) :
    after.length < s.length := by
  cases s with
  | nil => simp [tag?] at h
  | cons c rest =>
    rw [tag?] at h
    split at h
    · obtain ⟨⟨b, a⟩, hr, hb⟩ := Option.map_eq_some_iff.1 h
      obtain ⟨-, rfl⟩ := by simpa using hb
      have := toBracket?_length hr
      simp
      omega
    · simp at h

/-- A piece of markup. -/
inductive Piece where
  /-- A text; one that stands `alone` is read apart from the texts beside it. -/
  | text (alone : Bool) (s : List Char)
  /-- A tag and the position of its bracket. -/
  | tag (position : Nat) (body : List Char)
  deriving DecidableEq, Repr

def backslashes (n : Nat) : List Char := List.replicate n '\\'

/-- Cut markup into pieces; `slashes` backslashes come right before `position`. -/
def piecesFrom (position slashes : Nat) (s : List Char) : List Piece :=
  match s with
  | [] => [.text false (backslashes slashes)]
  | c :: rest =>
    if c = '\\' then piecesFrom (position + 1) (slashes + 1) rest
    else if c = '[' then
      match h : tag? rest with
      -- a bracket that opens no tag swallows one backslash before it
      | none => .text false (backslashes (slashes - 1) ++ [c]) :: piecesFrom (position + 1) 0 rest
      | some (body, after) =>
        have := tag?_length h
        let next := piecesFrom (position + body.length + 2) 0 after
        -- before a tag a pair of backslashes stands for one, and an odd one makes the tag text
        if slashes % 2 = 1 then
          .text true (backslashes (slashes / 2) ++ '[' :: body ++ [']']) :: next
        else .text true (backslashes (slashes / 2)) :: .tag position body :: next
    else .text false (backslashes slashes ++ [c]) :: piecesFrom (position + 1) 0 rest
termination_by s.length
decreasing_by all_goals (simp only [List.length_cons]; omega)

def pieces (s : List Char) : List Piece := piecesFrom 0 0 s

/-! ## Emoji -/

/-- The pieces with every run of texts put together, those that stand alone apart. -/
def joined : List Piece → List Piece
  | [] => []
  | .text false s :: rest =>
    match joined rest with
    | .text false t :: more => .text false (s ++ t) :: more
    | more => .text false s :: more
  | p :: rest => p :: joined rest

def Piece.withEmoji : Piece → Piece
  | text alone s => text alone (Emoji.replaced s)
  | tag position body => tag position body

/-- The pieces with emoji for their codes. -/
def withEmoji (ps : List Piece) : List Piece := (joined ps).map Piece.withEmoji

/-! ## Spans -/

/-- A tag that is open: the offset of what it covers, the normal name of its style, and what follows
its equals sign if it has one. -/
structure OpenTag where
  start : Nat
  style : String
  value : Option (List Char)
  deriving DecidableEq, Repr

def OpenTag.styleName (t : OpenTag) : String :=
  match t.value with
  | none => t.style
  | some v => t.style ++ " " ++ String.ofList v

def OpenTag.span (t : OpenTag) (stop : Nat) : Span := ⟨t.start, stop, some t.styleName⟩

/-- Does a tag call something? Then its style starts with an at sign. -/
def OpenTag.isAction (t : OpenTag) : Bool := t.style.toList.head? = some '@'

def nameAndValue (body : List Char) : List Char × Option (List Char) :=
  (body.takeWhile (· ≠ '='), (body.dropWhile (· ≠ '=')).tail?)

/-- The span of a tag that is closed at an offset. What it calls is checked now, and no style is
looked up for it later. -/
def closingSpan (t : OpenTag) (stop : Nat) : Except Fault Span :=
  if t.isAction then
    match Action.check (t.value.getD []) with
    | .ok () => .ok ⟨t.start, stop, none⟩
    | .error f => .error (.action f)
  else .ok (t.span stop)

/-- Take the innermost tag of a style out of the open ones. -/
def closeNamed? (style : String) : List OpenTag → Option (OpenTag × List OpenTag)
  | [] => none
  | t :: rest =>
    if t.style = style then some (t, rest)
    else (closeNamed? style rest).map fun (found, rest) => (found, t :: rest)

def normalName (name : List Char) : Except Fault String :=
  match Style.normalName name with
  | .ok s => .ok s
  | .error f => .error (.component f)

/-- The tag that a closing tag of this name closes, and those that stay open. -/
def closed (position : Nat) (body name : List Char) (opened : List OpenTag) :
    Except Fault (OpenTag × List OpenTag) :=
  match Text.trim name with
  | [] =>
    match opened with
    | [] => .error (.nothingToClose position)
    | t :: rest => .ok (t, rest)
  | name => do
    match closeNamed? (← normalName name) opened with
    | none => .error (.unmatched body position)
    | some found => .ok found

/-- Is the character one that the console never shows? -/
def isControl (c : Char) : Bool := [7, 8, 11, 12, 13].contains c.toNat

/-- The text of pieces and the spans of their tags in the order in which they end, where `offset` is
the length of the text so far and `opened` are the open tags, the innermost first. -/
def readFrom (offset : Nat) (opened : List OpenTag) : List Piece →
    Except Fault (List Char × List Span)
  | [] => .ok ([], opened.map fun t => t.span offset)
  | .text _ s :: rest => do
    let s := s.filter (!isControl ·)
    let (text, spans) ← readFrom (offset + s.length) opened rest
    return (s ++ text, spans)
  | .tag position body :: rest =>
    match nameAndValue body with
    | ('/' :: name, _) => do
      let (t, opened) ← closed position body name opened
      let span ← closingSpan t offset
      let (text, spans) ← readFrom offset opened rest
      return (text, span :: spans)
    | (name, value) => do readFrom offset (⟨offset, ← normalName name, value⟩ :: opened) rest

/-- The styled text that markup stands for. Spans are in the order of their starts; of two with one
start, the one that ends later comes first. -/
def read (s : List Char) : Except Fault StyledText := do
  let (text, spans) ← readFrom 0 [] (withEmoji (pieces s))
  return ⟨text, spans.reverse.mergeSort fun s t => s.start ≤ t.start⟩

/-- Look up the styles of spans. A name that is no style gives none; only a color whose component is
no number cannot be looked up. -/
def checkStyles (t : StyledText) : Except Fault Unit :=
  t.spans.forM fun s => do discard (normalName (s.style.getD "").toList)

end BindingIndex.Console.Markup
