/-
Files of settings: one `NAME=value` on a line.

Blank lines and lines that begin with a number sign say nothing. A value
ends at the first blank, after which only a comment may follow; single
quotes keep everything between them, double quotes keep everything but
escapes and references. A reference, a name after a dollar sign or in braces
after one, stands for what was assigned to the name before, and for nothing
if nothing was; without braces it takes letters and digits of every script,
though a name that is assigned to has ASCII characters only; in braces it may
take in an assignment up to a later equals sign, and stands for what follows
that sign. The first value of a name stays. A line that is none of these ends
the reading, and what stands before it counts.
-/
import TokenBridge.Text.Alphanumeric
import TokenBridge.Text.LogicalLine

namespace TokenBridge.Text

-- ===================================================================== values

/-- Where in a value the reading is; `quoted` says whether a double quote is open. -/
inductive ValueState
  | plain (quoted : Bool)
  | escape (quoted : Bool)
  | single
  /-- In the name after a dollar sign, which is kept last character first. -/
  | reference (quoted : Bool) (name : List Char)
  /-- In a name in braces. -/
  | braced (quoted : Bool) (name : List Char)
  /-- After the value, where a comment may follow. -/
  | ended

/-- The character that an escape stands for. -/
def escaped? (c : Char) : Option Char :=
  if c = 'n' then some '\n'
  else if c ∈ ['\\', '\'', '"', '$', ' '] then some c
  else none

/-- What stands after a name and an equals sign in the text of an assignment, `NAME=value`, if that
begins with them. The name may take in the beginning of the value: `A=b` finds `c` in `A=b=c`. -/
def assignedTo? (name : List Char) (assignment : String × String) : Option (List Char) :=
  (name ++ ['=']).isPrefixOf? (assignment.1.toList ++ '=' :: assignment.2.toList)

/-- What a reference stands for, where its name is given last character first. -/
def referred (known : List (String × String)) (name : List Char) : List Char :=
  (known.findSome? (assignedTo? name.reverse)).getD []

/-- The rest of a value, unless a quote or brace stays open or something follows the value. The
character that ends a name without braces is taken as it is, even a blank or a quote. -/
def readValue? (known : List (String × String)) : ValueState → List Char → Option (List Char)
  | .plain false, [] => some []
  | .escape false, [] => some []
  | .ended, [] => some []
  | .reference false name, [] => some (referred known name)
  | _, [] => none
  | .ended, c :: rest =>
    if c = '#' then some []
    else if c = ' ' ∨ c = '\t' then readValue? known .ended rest
    else none
  | .escape quoted, c :: rest =>
    match escaped? c with
    | some e => (readValue? known (.plain quoted) rest).map (e :: ·)
    | none => none
  | .single, c :: rest =>
    if c = '\'' then readValue? known (.plain false) rest
    else (readValue? known .single rest).map (c :: ·)
  | .reference quoted name, c :: rest =>
    if isAlphanumeric c then readValue? known (.reference quoted (c :: name)) rest
    else if c = '{' ∧ name = [] then readValue? known (.braced quoted []) rest
    else if c = '$' then
      (readValue? known (.reference quoted []) rest).map (referred known name ++ ·)
    else (readValue? known (.plain quoted) rest).map (referred known name ++ c :: ·)
  | .braced quoted name, c :: rest =>
    if c = '}' then (readValue? known (.plain quoted) rest).map (referred known name ++ ·)
    else readValue? known (.braced quoted (c :: name)) rest
  | .plain quoted, c :: rest =>
    if c = '$' then readValue? known (.reference quoted []) rest
    else if c = '\\' then readValue? known (.escape quoted) rest
    else if c = '"' then readValue? known (.plain (!quoted)) rest
    else if c = '\'' ∧ !quoted then readValue? known .single rest
    else if (c = ' ' ∨ c = '\t') ∧ !quoted then readValue? known .ended rest
    else (readValue? known (.plain quoted) rest).map (c :: ·)

-- ====================================================================== lines

def isNameStart (c : Char) : Bool := c.isAlpha || c = '_'

def isNameChar (c : Char) : Bool := c.isAlphanum || c = '_' || c = '.'

/-- A name and what follows it and the blanks after it. -/
def readName? (chars : List Char) : Option (String × List Char) :=
  match chars with
  | c :: _ =>
    if isNameStart c then
      some (String.ofList (chars.takeWhile isNameChar),
        (chars.dropWhile isNameChar).dropWhile isBlank)
    else none
  | [] => none

/-- The value after the equals sign and blanks; a comment in its place is an empty value. -/
def readAssigned? (known : List (String × String)) : List Char → Option String
  | '=' :: rest =>
    match rest.dropWhile isBlank with
    | '#' :: _ => some ""
    | value => (readValue? known (.plain false) value).map String.ofList
  | _ => none

/-- What a line says: nothing, an assignment, or that it cannot be read. The word `export` may
stand before a name. -/
def readLine? (known : List (String × String)) (line : List Char) :
    Option (Option (String × String)) :=
  match trimChars line with
  | [] => some none
  | '#' :: _ => some none
  | chars =>
    match readName? chars with
    | none => none
    | some ("export", '=' :: rest) =>
      (readAssigned? known ('=' :: rest)).map fun value => some ("export", value)
    | some ("export", rest) =>
      match readName? rest with
      | none => none
      | some (name, rest) => (readAssigned? known rest).map fun value => some (name, value)
    | some (name, rest) => (readAssigned? known rest).map fun value => some (name, value)

/-- What lines assign, up to the first line that cannot be read, to names that have no value yet. It
is known to the lines after it. -/
def readLines (known : List (String × String)) : List (Option (List Char)) → List (String × String)
  | [] => []
  | none :: _ => []
  | some line :: rest =>
    match readLine? known line with
    | none => []
    | some none => readLines known rest
    | some (some assignment) =>
      if (known.lookup assignment.1).isSome then readLines known rest
      else assignment :: readLines (assignment :: known) rest

/-- What a file assigns, in order, where some names have values already. A byte order mark before
the first line is no part of it. -/
def readAssignments (known : List (String × String)) (file : String) : List (String × String) :=
  let chars := file.toList
  readLines known (logicalLines (if chars.head? = some '\ufeff' then chars.tail else chars))

end TokenBridge.Text
