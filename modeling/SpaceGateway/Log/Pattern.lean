import SpaceGateway.Log.Pattern.Shape
import SpaceGateway.Text.Characters
/-!
Which texts are patterns that a field's value can be compared with. A pattern is built of
characters, groups, square brackets and repetitions. It is read from left to right, one character
at a time and with a view of what follows.
-/
namespace SpaceGateway.Log.Pattern

/-- How the characters of a pattern are meant. -/
structure Mode where
  /-- Capitals and small letters count as one. -/
  caseless : Bool := false
  /-- Kinds of characters are meant of all characters, and not of bytes. -/
  wide : Bool := true
  /-- Blanks, and comments up to the end of a line, do not count. -/
  spaced : Bool := false

namespace Mode

def set (m : Mode) (flag : Char) (on : Bool) : Mode :=
  if flag = 'i' then { m with caseless := on }
  else if flag = 'u' then { m with wide := on }
  else if flag = 'x' then { m with spaced := on }
  else m

/-- Whether a character may stand for itself. Which letters differ only in case is known of bytes
alone. Within a square bracket bytes are meant that are characters. -/
def admits (m : Mode) (inBracket : Bool) (c : Char) : Bool :=
  if m.wide then !m.caseless else !inBracket || c.toNat < 128

end Mode

/-- Where in a pattern the next character stands. -/
inductive Place
  /-- Between items. -/
  | item
  /-- Right after a repetition. -/
  | repeated
  /-- After a backslash; `low` is the lower end of a range that is under way. -/
  | escape (low : Option Char)
  /-- Among the hexadecimal digits of a character, or of a byte. -/
  | hex (isByte : Bool) (left code : Nat) (low : Option Char)
  /-- After a bracket that opens a group. -/
  | opened
  /-- After a question mark at the start of a group. -/
  | question
  /-- Before the angle bracket of a group's name. -/
  | naming
  | name (sofar : List Char)
  /-- Among the flags of a group. -/
  | flags (seen : List Char) (negated dangling : Bool) (mode : Mode)
  /-- After a square bracket that opens. -/
  | bracket
  /-- Before the first member of a square bracket. -/
  | lead
  /-- After the dashes that a square bracket starts with. -/
  | dashes
  | member
  /-- After a member; `low` is the character from which a range may start. -/
  | after (low : Option Char)
  /-- After the dash of a range. -/
  | range (low : Char)
  /-- Before the second character of an operator. -/
  | operator
  /-- Within the name of a class of characters. -/
  | className (left : Nat)

namespace Place

/-- Whether blanks can be left out at a place. -/
def isLoose : Place → Bool
  | item | repeated | hex .. | opened | bracket | lead | dashes | member | after _ | range _ => true
  | _ => false

/-- Where a blank leaves off. -/
def afterBlank : Place → Place
  | repeated => item
  | p => p

end Place

/-- A pattern that was read in part. -/
structure Reader where
  place : Place := .item
  mode : Mode := {}
  /-- Whether a comment is under way. -/
  inComment : Bool := false
  /-- The innermost open group, or the pattern itself. -/
  group : Choice := {}
  /-- The groups around it, and the modes to return to at their ends. -/
  outer : List (Mode × Choice) := []
  /-- The open square brackets, the innermost first. -/
  brackets : List Members := []
  /-- The names of groups so far. -/
  names : List (List Char) := []

namespace Reader

def goTo (r : Reader) (place : Place) : Option Reader := some { r with place }

/-- After an item. -/
def item (r : Reader) (x : Item) : Reader := { r with place := .item, group := r.group.push x }

/-- After a member of a square bracket. -/
def member (r : Reader) (place : Place) (height : Nat) : Reader :=
  { r with place, brackets := r.brackets.modifyHead (·.push height) }

/-- After a character that stands for itself. A range goes upwards. -/
def literal (r : Reader) (low : Option Char) (c : Char) : Option Reader :=
  if !r.mode.admits (!r.brackets.isEmpty) c then none
  else if r.brackets.isEmpty then some (r.item {})
  else
    match low with
    | none => some (r.member (.after (some c)) 0)
    | some l => if l ≤ c then r.goTo .member else none

/-- After something that stands for the characters of a kind. It is known of bytes only, and ends
no range. -/
def kind (r : Reader) (low : Option Char) : Option Reader :=
  if r.mode.wide || low.isSome then none
  else if r.brackets.isEmpty then some (r.item {})
  else some (r.member (.after none) 0)

/-- After something that stands for a place in the text. -/
def position (r : Reader) : Option Reader :=
  if r.brackets.isEmpty then some (r.item {}) else none

/-- Opens a group with a mode of its own. -/
def openGroup (r : Reader) (mode : Mode) : Reader :=
  { r with place := .item, mode, group := {}, outer := (r.mode, r.group) :: r.outer }

/-- Closes the innermost group. -/
def closeGroup? (r : Reader) : Option Reader :=
  match r.outer with
  | [] => none
  | (mode, group) :: outer =>
    some ({ r with mode, group, outer }.item { height := r.group.height + 1 })

def openBracket (r : Reader) : Reader := { r with place := .bracket, brackets := {} :: r.brackets }

/-- Closes the innermost square bracket. -/
def closeBracket (r : Reader) : Reader :=
  match r.brackets with
  | [] => r
  | [m] => { r with brackets := [] }.item { height := m.height }
  | m :: rest => { r with brackets := rest }.member .member m.height

def atItem (r : Reader) (c : Char) : Option Reader :=
  match c with
  | '(' => r.goTo .opened
  | ')' => r.closeGroup?
  | '|' => some { r with group := r.group.split }
  | '[' => some r.openBracket
  | '*' | '+' | '?' => r.group.repeated?.map fun group => { r with group, place := .repeated }
  | '\x7b' => none
  | '\\' => r.goTo (.escape none)
  | '.' => if r.mode.wide then some (r.item {}) else none
  | '^' | '$' => some (r.item {})
  | c => r.literal none c

/-- A question mark after a repetition says that the shortest match is wanted. -/
def atRepeated (r : Reader) (c : Char) : Option Reader :=
  if c = '?' then r.goTo .item else { r with place := .item }.atItem c

def atEscape (r : Reader) (low : Option Char) (c : Char) : Option Reader :=
  match c with
  | 'x' => r.goTo (.hex true 2 0 low)
  | 'u' => r.goTo (.hex false 4 0 low)
  | 'U' => r.goTo (.hex false 8 0 low)
  | 'd' | 's' | 'w' => r.kind low
  | 'A' | 'z' => r.position
  | 'b' | 'B' | '<' | '>' => if r.mode.wide then none else r.position
  | 'a' => r.literal low '\x07'
  | 'f' => r.literal low '\x0c'
  | 't' => r.literal low '\t'
  | 'n' => r.literal low '\n'
  | 'r' => r.literal low '\r'
  | 'v' => r.literal low '\x0b'
  | c => if c.toNat < 128 && !c.isAlphanum then r.literal low c else none

/-- The value of a hexadecimal digit. -/
def hexDigit? (c : Char) : Option Nat :=
  if c.isDigit then some (c.toNat - '0'.toNat)
  else if 'a' ≤ c && c ≤ 'f' then some (c.toNat - 'a'.toNat + 10)
  else if 'A' ≤ c && c ≤ 'F' then some (c.toNat - 'A'.toNat + 10)
  else none

/-- A character by its code. A byte that is no character is never compared. -/
def atHex (r : Reader) (isByte : Bool) (left code : Nat) (low : Option Char) (c : Char) :
    Option Reader := do
  let code := code * 16 + (← hexDigit? c)
  if 1 < left then r.goTo (.hex isByte (left - 1) code low)
  else if !code.isValidChar || (isByte && !r.mode.wide && 128 ≤ code) then none
  else r.literal low (Char.ofNat code)

/-- Whether a character may stand in the name of a group. -/
def inName (first : Bool) (c : Char) : Bool :=
  if first then c == '_' || Text.isAlphabetic c
  else ['_', '.', '[', ']'].contains c || Text.isAlphanumeric c

def atName (r : Reader) (sofar : List Char) (c : Char) : Option Reader :=
  if c = '>' then
    if sofar.isEmpty || r.names.contains sofar then none
    else some { r.openGroup r.mode with names := sofar :: r.names }
  else if inName sofar.isEmpty c then r.goTo (.name (sofar ++ [c]))
  else none

def atFlags (r : Reader) (seen : List Char) (negated dangling : Bool) (mode : Mode) (c : Char) :
    Option Reader :=
  match c with
  | ')' =>
    if seen.isEmpty || dangling then none
    else some ({ r with mode }.item { repeatable := false })
  | ':' => if dangling then none else some (r.openGroup mode)
  | '-' => if negated then none else r.goTo (.flags seen true true mode)
  | c =>
    if ['i', 'm', 's', 'U', 'u', 'R', 'x'].contains c && !seen.contains c then
      r.goTo (.flags (c :: seen) negated false (mode.set c !negated))
    else none

/-- The classes of characters that have a name. -/
def classNames : List String :=
  ["alnum", "alpha", "ascii", "blank", "cntrl", "digit", "graph", "lower", "print", "punct",
    "space", "upper", "word", "xdigit"]

/-- What a named class looks like after its bracket, within another bracket. -/
def className? (negated : Bool) (rest : List Char) : Option String :=
  classNames.find? fun name =>
    ((if negated then ":^" else ":") ++ name ++ ":]").toList.isPrefixOf rest

/-- A named class. Where bytes are meant, the others have no class. -/
def namedClass (r : Reader) (negated : Bool) (name : String) : Option Reader :=
  if r.mode.wide && r.mode.caseless || negated && !r.mode.wide then none
  else some (r.member (.className (name.length + if negated then 4 else 3)) 0)

/-- Before a member of a square bracket. A character that is doubled may be an operator. -/
def atMember (r : Reader) (c : Char) (rest : List Char) : Option Reader :=
  if c = '[' then
    match className? false rest, className? true rest with
    | some name, _ => r.namedClass false name
    | none, some name => r.namedClass true name
    | none, none => some r.openBracket
  else if c = ']' then some r.closeBracket
  else if c = '\\' then r.goTo (.escape none)
  else if ['&', '-', '~'].contains c && rest.head? = some c then
    some { r with place := .operator, brackets := r.brackets.modifyHead Members.operate }
  else r.literal none c

/-- Where a square bracket starts, dashes and a bracket that closes count for themselves. -/
def atLead (r : Reader) (c : Char) (rest : List Char) : Option Reader :=
  if c = '-' || c = ']' then
    (r.literal none c).bind (·.goTo (if c = '-' then .dashes else .member))
  else r.atMember c rest

/-- What comes next where blanks do not count. The mark of a comment counts as a blank, and what
follows it does not. -/
def nextLoose (rest : List Char) : Option Char :=
  let unmarked := match rest.dropWhile Text.isBlank with
    | '#' :: comment => comment.dropWhile Text.isBlank
    | text => text
  unmarked.head? <|> rest.head?

/-- After a member. A dash makes it the lower end of a range, unless the dash is the last member or
part of an operator. -/
def atAfter (r : Reader) (low : Option Char) (c : Char) (rest : List Char) : Option Reader :=
  let next := if r.mode.spaced then nextLoose rest else rest.head?
  if c = '-' && next != some ']' && next != some '-' then low.bind fun l => r.goTo (.range l)
  else r.atMember c rest

/-- Reads a character that counts. -/
def read (r : Reader) (c : Char) (rest : List Char) : Option Reader :=
  match r.place with
  | .item => r.atItem c
  | .repeated => r.atRepeated c
  | .escape low => r.atEscape low c
  | .hex isByte left code low => r.atHex isByte left code low c
  | .opened => if c = '?' then r.goTo .question else (r.openGroup r.mode).atItem c
  | .question =>
    if c = '<' then r.goTo (.name [])
    else if c = 'P' && rest.head? = some '<' then r.goTo .naming
    else r.atFlags [] false false r.mode c
  | .naming => r.goTo (.name [])
  | .name sofar => r.atName sofar c
  | .flags seen negated dangling mode => r.atFlags seen negated dangling mode c
  | .bracket =>
    if c = '^' then if r.mode.wide then r.goTo .lead else none
    else r.atLead c rest
  | .lead => r.atLead c rest
  | .dashes => if c = '-' then r.atLead c rest else r.atMember c rest
  | .member => r.atMember c rest
  | .after low => r.atAfter low c rest
  | .range l => if c = '\\' then r.goTo (.escape (some l)) else r.literal (some l) c
  | .operator => r.goTo .member
  | .className left => r.goTo (if left ≤ 1 then .member else .className (left - 1))

/-- Reads one character. -/
def step (r : Reader) (c : Char) (rest : List Char) : Option Reader :=
  if r.inComment then some { r with inComment := c != '\n' }
  else if r.mode.spaced && r.place.isLoose && (Text.isBlank c || c = '#') then
    some { r with place := r.place.afterBlank, inComment := c = '#' }
  else r.read c rest

/-- How deep the parts of a pattern may lie in each other. -/
def maxHeight : Nat := 250

/-- Whether the pattern may end here. -/
def isComplete (r : Reader) : Bool :=
  match r.place with
  | .item | .repeated => r.outer.isEmpty && r.group.height ≤ maxHeight
  | _ => false

/-- Whether the rest of a pattern is well formed. -/
def accepts : Reader → List Char → Bool
  | r, [] => r.isComplete
  | r, c :: s =>
    match r.step c s with
    | some next => next.accepts s
    | none => false

end Reader

/-- Whether a text is a well-formed pattern. -/
def isWellFormed (s : List Char) : Bool := ({} : Reader).accepts s

end SpaceGateway.Log.Pattern
