import SpaceGateway.Log
import SpaceGateway.Log.Pattern
import SpaceGateway.Text.Slice
/-!
Rules about log entries. A rule is a level for all targets, `target`, or `target=level` for the
targets that start so. A bracket before the level, as in `target[span{field=value}]=level`, narrows
the rule down to a span of work or to what has a field.
-/
namespace SpaceGateway.Log

/-- What a rule lets through: entries of a level and more severe ones, or nothing. -/
abbrev Limit := Option Level

/-- Whether a limit lets a level through. -/
def Limit.admits (limit : Limit) (l : Level) : Bool := limit.any fun least => least.rank ≤ l.rank

/-- What a rule is about. -/
inductive Subject
  /-- All entries, or those with a field of this name. -/
  | entries (field : Option (List Char))
  /-- What happens within certain spans of work. The gateway marks no spans. -/
  | spans
  deriving DecidableEq, Repr

structure Rule where
  /-- How targets start that the rule is for. -/
  target : List Char := []
  subject : Subject := .entries none
  limit : Limit
  deriving DecidableEq, Repr

/-- Whether an entry is of a rule's subject. -/
def Subject.includes (e : Entry) : Subject → Bool
  | entries none => true
  | entries (some field) => e.fieldNames.any fun name => name.toList = field
  | spans => false

namespace Rule

/-- The limits, from the strictest on. A number may stand for a name. -/
def limits : List (String × Limit) :=
  [("off", none), ("error", some .error), ("warn", some .warn), ("info", some .info),
    ("debug", some .debug), ("trace", some .trace)]

/-- A number with digits only, and perhaps a plus sign in front. -/
def number? (s : List Char) : Option Nat :=
  let digits := if s.head? = some '+' then s.tail else s
  if digits.isEmpty || !digits.all Char.isDigit then none
  else some (digits.foldl (fun n d => n * 10 + (d.toNat - '0'.toNat)) 0)

/-- The limit with this number, or with this name in any case. -/
def limit? (s : List Char) : Option Limit :=
  match number? s with
  | some n => limits[n]?.map (·.2)
  | none => limits.lookup (String.ofList (s.map Char.toLower))

/-- A limit that is left out lets everything through. -/
def limitOrAll? (s : List Char) : Option Limit :=
  if s.isEmpty then some (some .trace) else limit? s

/-- Whether a rule may start with a character. -/
def mayStart (c : Char) : Bool := c == '-' || c == ':' || c == '_' || Text.isAlphanumeric c

/-- Whether a text is empty or an exponent. -/
def isExponent : List Char → Bool
  | [] => true
  | e :: s =>
    let digits := match s with
      | '+' :: r => r
      | '-' :: r => r
      | r => r
    (e == 'e' || e == 'E') && !digits.isEmpty && digits.all Char.isDigit

/-- Whether a text is a number without a sign: digits, perhaps with a point and an exponent, or a
name for what digits cannot say. -/
def isUnsigned (s : List Char) : Bool :=
  let (whole, rest) := s.span Char.isDigit
  let (places, rest) := match rest with
    | '.' :: r => r.span Char.isDigit
    | r => ([], r)
  ["inf", "infinity", "nan"].contains (String.ofList (s.map Char.toLower)) ||
    (!(whole ++ places).isEmpty && isExponent rest)

/-- Whether a field can be compared with a value: a number or a pattern. A number without a plus
sign is a pattern as well. -/
def isValue (s : List Char) : Bool :=
  match s with
  | '+' :: digits => isUnsigned digits
  | s => Pattern.isWellFormed s

/-- Reads what stands in braces: a field's name, and perhaps a value after it. Values are compared
within spans only. -/
def subject? (s : List Char) : Option Subject :=
  match s.splitOn '=' with
  | _ :: value :: _ => if isValue value then some .spans else none
  | _ => if s.isEmpty then none else some (.entries (some s))

/-- A text without the blanks around it. -/
def trim (s : List Char) : List Char :=
  ((s.dropWhile Text.isBlank).reverse.dropWhile Text.isBlank).reverse

/-- Reads the end of a rule: `rest`, from byte `start` on. It is a level or nothing. -/
def ofLevel? (s target : List Char) (subject : Subject) (start : Nat) (rest : List Char) :
    Option Rule :=
  match rest with
  | [] => some { target, subject, limit := some .trace }
  | '=' :: _ => do
    let limit ← limitOrAll? (← Text.dropBytes? s (start + 1))
    return { target, subject, limit }
  | _ => none

/-- Reads a rule from what follows its square bracket: `rest`, from byte `start` on. -/
def ofBracket? (s target : List Char) (start : Nat) (rest : List Char) : Option Rule :=
  let span := rest.takeWhile fun c => c != ']' && c != '\x7b'
  let start := start + Text.byteSize span + 1
  match rest.drop span.length with
  | ']' :: rest => ofLevel? s target .spans start rest
  | '\x7b' :: inside =>
    let field := inside.takeWhile (· != '\x7d')
    match inside.drop field.length with
    | '\x7d' :: ']' :: rest => do
      let subject ← subject? (← Text.slice? s start (Text.byteSize field))
      ofLevel? s target (if span.isEmpty then subject else .spans)
        (start + Text.byteSize field + 2) rest
    | _ => none
  | _ => none

/-- Reads a rule. What is no level is a target, and lets everything through. Its parts are looked for
in the text without the blanks around it, and each is given by the bytes that stand before it and in
it. It is taken from the text with all its blanks, though, so that blanks in front move every
part. -/
def ofText? (s : List Char) : Option Rule :=
  match trim s with
  | [] => none
  | '[' :: rest => ofBracket? s [] 1 rest
  | c :: t =>
    if !mayStart c then none
    else
      let head := (c :: t).takeWhile fun c => c != '=' && c != '['
      let size := Text.byteSize head
      match (c :: t).drop head.length with
      | [] =>
        match limit? s with
        | some limit => some { limit }
        | none => some { target := s, limit := some .trace }
      | '[' :: rest => do ofBracket? s (← Text.slice? s 0 size) (size + 1) rest
      | rest => do ofLevel? s (← Text.slice? s 0 size) (.entries none) size rest

/-- Whether a rule is for an entry. -/
def fits (e : Entry) (r : Rule) : Bool :=
  r.target.isPrefixOf e.source.target.toList && r.subject.includes e

/-- Whether a rule gives way to a later one that fits the same entries: the longer target decides,
then a field, and then the order of the fields' names. -/
def givesWay (r later : Rule) : Bool :=
  if Text.byteSize r.target = Text.byteSize later.target then
    match r.subject, later.subject with
    | .entries (some _), .entries none => false
    | .entries (some f), .entries (some g) => !g.lex f fun a b => a.toNat < b.toNat
    | _, _ => true
  else Text.byteSize r.target < Text.byteSize later.target

end Rule
end SpaceGateway.Log
