/-
Logical lines: where a line of a settings file ends.

Most lines end at their line feed. A line inside quotes goes on with the
next one, and a comment after a single blank ends a line before its line
feed. A file that ends inside quotes, or right after a backslash or a single
blank, breaks its last line off. The reading here only finds the end of a
line; it looks at quotes and escapes more coarsely than the reading of a
value does.
-/
import TokenBridge.Text.Blank

namespace TokenBridge.Text

/-- Where in a line the reading is, as far as it matters for the end of the line. -/
inductive LineState
  | plain
  | escape
  /-- After a blank, where a comment may begin. -/
  | blank
  | single
  | singleEscape
  | double
  | doubleEscape
deriving DecidableEq

/-- Outside quotes: the character that opens one, or an escape. -/
def LineState.opened (c : Char) : LineState :=
  if c = '\\' then .escape
  else if c = '"' then .double
  else if c = '\'' then .single
  else .plain

/-- After one more character; `none` where a comment begins. -/
def LineState.next? : LineState → Char → Option LineState
  | .plain, c => if isBlank c ∧ c ≠ '\n' ∧ c ≠ '\r' then some .blank else some (opened c)
  | .escape, _ => some .plain
  | .blank, c => if c = '#' then none else some (opened c)
  | .single, c =>
    some (if c = '\\' then .singleEscape else if c = '\'' then .plain else .single)
  | .singleEscape, _ => some .single
  | .double, c =>
    some (if c = '\\' then .doubleEscape else if c = '"' then .plain else .double)
  | .doubleEscape, _ => some .double

/-- The characters before a comment, and the state after them unless a comment follows. -/
def LineState.scan : LineState → List Char → List Char × Option LineState
  | state, [] => ([], some state)
  | state, c :: rest =>
    match state.next? c with
    | none => ([], none)
    | some state =>
      let (kept, final) := state.scan rest
      (c :: kept, final)

/-- The lines of a file, each with its line feed. -/
def physicalLines : List Char → List (List Char)
  | [] => []
  | c :: rest =>
    if c = '\n' then [c] :: physicalLines rest
    else match physicalLines rest with
      | [] => [[c]]
      | line :: lines => (c :: line) :: lines

/-- A line without the line feed at its end and the carriage return before it. -/
def withoutLineEnd (line : List Char) : List Char :=
  if line.getLast? = some '\n' then
    let line := line.dropLast
    if line.getLast? = some '\r' then line.dropLast else line
  else line

/-- A line that says nothing because a number sign comes first. -/
def isCommentLine (line : List Char) : Bool :=
  (line.dropWhile isBlank).head? = some '#'

/-- The logical lines of physical ones, after what is held of a line that goes on; `none` for one
that the file breaks off. -/
def joinLines (held : List Char) (state : LineState) : List (List Char) → List (Option (List Char))
  | [] => if state = .plain then [] else [none]
  | line :: rest =>
    if isCommentLine (held ++ line) then some [] :: joinLines [] .plain rest
    else match state.scan line with
      | (kept, none) => some (held ++ kept) :: joinLines [] .plain rest
      | (kept, some .plain) => some (withoutLineEnd (held ++ kept)) :: joinLines [] .plain rest
      | (kept, some state) => joinLines (held ++ kept) state rest

/-- The logical lines of a file. -/
def logicalLines (file : List Char) : List (Option (List Char)) :=
  joinLines [] .plain (physicalLines file)

end TokenBridge.Text
