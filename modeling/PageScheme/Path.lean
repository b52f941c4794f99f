import PageScheme.Text.Blank
import PageScheme.Text.Letter

/-!
# Structural paths

A structural path names an element by the tags on the way down to it, outermost first, joined by
`" > "`. A segment whose element has siblings of the same tag carries its position among them:
`div > ul > li:nth-of-type(2) > p`. Splitting is lenient about the spacing around `>`; joining
always writes one blank on either side.

`relativeTo` expresses one path in terms of another: the segments they share at the front go, and
the first segment left is reduced to its tag, since its position was counted outside the place the
path now starts from.
-/
namespace PageScheme.Path

def separator : Text := Text.ofString " > "

/-- Cuts at every `>`; there is always at least one piece. -/
def cut : Text → List Text
  | [] => [[]]
  | .scalar '>' :: rest => [] :: cut rest
  | letter :: rest =>
    match cut rest with
    | [] => [[letter]]
    | piece :: pieces => (letter :: piece) :: pieces

def isBlank (letter : Letter) : Bool := letter.char?.any Text.isBlank

/-- The segments of a path, each without the blanks around it. -/
def split (path : Text) : List Text := (cut path).map (Text.stripBy isBlank)

def join (segments : List Text) : Text := separator.intercalate segments

/-- A segment with the position of its element among its siblings of the same tag. -/
def ordinal (tag : Text) (index : Int) : Text :=
  tag ++ Text.ofString (":nth-of-type(" ++ index.repr ++ ")")

def isTagChar (c : Char) : Bool := c.isAlphanum || c == '_' || c == '-'

/-- The tag name a segment starts with; a segment that starts with none stays as it is. -/
def leadingTag (segment : Text) : Text :=
  match segment.takeWhile fun letter => letter.char?.any isTagChar with
  | [] => segment
  | tag => tag

/-- How many segments two paths share at the front. -/
def sharedLength : List Text → List Text → Nat
  | left :: lefts, right :: rights => if left = right then sharedLength lefts rights + 1 else 0
  | _, _ => 0

def reduceHead : List Text → List Text
  | [] => []
  | segment :: rest => leadingTag segment :: rest

/-- The path `child` as seen from `parent`. -/
def relativeTo (child parent : Text) : Text :=
  -- The first segment that is left may carry a position that was counted elsewhere.
  let segments := split child
  join (reduceHead (segments.drop (sharedLength (split parent) segments)))

theorem cut_ne_nil (path : Text) : cut path ≠ [] := by
  induction path with
  | nil => simp [cut]
  | cons c rest ih =>
    unfold cut
    split
    · contradiction
    · simp
    · split <;> simp

theorem split_ne_nil (path : Text) : split path ≠ [] := by
  simp [split, cut_ne_nil]

@[simp] theorem join_nil : join [] = [] := rfl

end PageScheme.Path
