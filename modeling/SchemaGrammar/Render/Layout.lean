import SchemaGrammar.Text.Blank

/-!
# White space between rendered parts

A layout decides how texts are put together, and nothing else: on one line with single
spaces, or on several lines with the members of a block indented.

**Results.**
* `Layout.sequence` joins the parts of a sequence, `Layout.lines` independent items and
  `Layout.document` whole blocks.
* `splitFirst_eq_some`: the split at the first match loses nothing.
-/

namespace SchemaGrammar.Render

/-- A rendered part of a sequence. -/
structure Part where
  text : String
  /-- On several lines a description is followed by a line break. -/
  isDescription : Bool
  deriving DecidableEq, Inhabited

/-- What stands before and behind the first element that satisfies `p`. -/
def splitFirst {α : Type} (p : α → Bool) : List α → Option (List α × List α)
  | [] => none
  | a :: rest =>
      if p a then some ([], rest)
      else (splitFirst p rest).map fun s => (a :: s.1, s.2)

/-- What stands before and behind the last element that satisfies `p`. -/
def splitLast {α : Type} (p : α → Bool) (l : List α) : Option (List α × List α) :=
  (splitFirst p l.reverse).map fun s => (s.2.reverse, s.1.reverse)

theorem splitFirst_eq_some
    {α : Type}
    {p : α → Bool}
    {l before behind : List α}
    (h : splitFirst p l = some (before, behind)) :
    ∃ a, p a = true ∧ l = before ++ a :: behind := by
  induction l generalizing before with
  | nil => simp [splitFirst] at h
  | cons a rest ih =>
      rw [splitFirst] at h
      split at h
      · next hp =>
          simp only [Option.some.injEq, Prod.mk.injEq] at h
          obtain ⟨rfl, rfl⟩ := h
          exact ⟨a, hp, rfl⟩
      · simp only [Option.map_eq_some_iff, Prod.mk.injEq, Prod.exists] at h
        obtain ⟨b, d, hs, rfl, rfl⟩ := h
        obtain ⟨x, hx, rfl⟩ := ih hs
        exact ⟨x, hx, rfl⟩

/-- How rendered texts are joined. -/
structure Layout where
  /-- Whether several lines are used. -/
  pretty : Bool
  /-- The number of spaces at the beginning of an indented line. -/
  indent : Nat
  deriving DecidableEq, Inhabited

namespace Layout

section Inline

/-- The characters that follow what is before them without a space. -/
def gluesLeft (c : Char) : Bool :=
  c == '!' || c == ':' || c == ')' || c == ']' || c == ',' || c == '('

/-- The characters that are followed without a space. -/
def gluesRight (c : Char) : Bool := c == '(' || c == '[' || c == '@'

/-- Whether a space is due between two texts. -/
def needsSpace (left right : String) : Bool :=
  !(right.toList.head?.any gluesLeft || left.toList.getLast?.any gluesRight)

/-- What stands between the text so far and the next part. -/
def separator (out : String) (afterDescription : Bool) (next : String) : String :=
  if out.isEmpty then ""
  else if afterDescription then "\n"
  else if needsSpace out next then " "
  else ""

/-- Appends parts to a text, with spaces only where they are due. -/
def inlineFrom (out : String) (afterDescription : Bool) : List Part → String
  | [] => out
  | p :: ps =>
      inlineFrom (out ++ separator out afterDescription p.text ++ p.text) p.isDescription ps

/-- The parts on one line, apart from the breaks behind descriptions. -/
def inline (parts : List Part) : String := inlineFrom "" false parts

end Inline

variable (l : Layout)

/-- A line of a block. -/
def bodyLine (line : String) : String :=
  (if line.isEmpty then "" else String.ofList (List.replicate l.indent ' ') ++ line) ++ "\n"

/-- A head and lines between braces. -/
def block (head : String) (lines : List String) : String :=
  (if head.isEmpty then "" else head ++ " ") ++
    if l.pretty then
      if lines.isEmpty then "\x7b\x7d"
      else "\x7b\n" ++ String.join (lines.map l.bodyLine) ++ "\x7d"
    else "\x7b" ++ String.join (lines.map fun line => " " ++ line) ++ " \x7d"

/-- The parts of a sequence, those between the first opening and the last closing brace on
indented lines. -/
def prettySequence (parts : List Part) : String :=
  match splitFirst (fun p => p.text == "\x7b") parts with
  | none => inline parts
  | some (head, rest) =>
      match splitLast (fun p => p.text == "\x7d") rest with
      | none => inline parts
      | some (body, tail) =>
          let out := l.block (inline head) (body.flatMap fun p => Text.lines p.text)
          let tail := inline tail
          if tail.isEmpty then out else out ++ " " ++ tail

/-- The parts of a sequence. -/
def sequence (parts : List Part) : String :=
  if l.pretty then l.prettySequence parts else " ".intercalate (parts.map (·.text))

/-- Independent items, each on a line of its own if there are several lines. -/
def lines (items : List String) : String :=
  (if l.pretty then "\n" else " ").intercalate (items.filter fun item => !item.isEmpty)

/-- The blocks of a document, with an empty line between them if there are several lines. -/
def document (blocks : List String) : String :=
  (if l.pretty then "\n\n" else " ").intercalate
    ((blocks.map Text.trim).filter fun block => !block.isEmpty)

end Layout

end SchemaGrammar.Render
