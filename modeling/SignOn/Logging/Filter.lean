import SignOn.Logging.Pattern
import SignOn.Text.Letter
import SignOn.Text.Utf8

/-! # Filters of logged events -/

namespace SignOn

open Text

/-- Why a text is no filter of events. -/
inductive FilterError where
  | directive
  | level
  | pattern (e : Pattern.PatternError)
deriving DecidableEq, Repr

def FilterError.message : FilterError → String
  | .directive => "invalid filter directive"
  | .level =>
    "error parsing level filter: expected one of \"off\", \"error\", \"warn\", \"info\", " ++
      "\"debug\", \"trace\", or a number 0-5"
  | .pattern .form => "invalid field filter: error building NFA"
  | .pattern .wordBorder =>
    "invalid field filter: unsupported regex feature for DFAs: cannot build DFAs for regexes " ++
      "with Unicode word boundaries; switch to ASCII word boundaries, or heuristically enable " ++
      "Unicode word boundaries or use a different regex engine"

namespace LogFilter

/-- Why a filter does not come about. -/
inductive Failure where
  | error (e : FilterError)
  /-- A part begins or ends within a character. -/
  | withinCharacter
deriving DecidableEq, Repr

def levels : List String := ["off", "error", "warn", "info", "debug", "trace"]

/-- A level by its name or its number; the empty text is one, too. -/
def isLevel (s : String) : Bool :=
  let digits :=
    match s.toList with
    | '+' :: ds => ds
    | ds => ds
  let number := digits ≠ [] && digits.all Char.isDigit &&
    digits.foldl (fun n d ↦ n * 10 + (d.toNat - 48)) 0 ≤ 5
  s = "" || number || levels.any fun l ↦ EqFold s l

/-- Digits, which may have a point before, behind or among them, and an exponent. -/
def isDecimal (cs : List Char) : Bool :=
  let whole := cs.takeWhile Char.isDigit
  let rest := cs.dropWhile Char.isDigit
  let (fraction, rest) :=
    match rest with
    | '.' :: rest => (rest.takeWhile Char.isDigit, rest.dropWhile Char.isDigit)
    | rest => ([], rest)
  let digits : List Char → Bool := fun ds ↦ ds ≠ [] && ds.all Char.isDigit
  whole ++ fraction ≠ [] &&
    match rest with
    | [] => true
    | 'e' :: '+' :: ds | 'e' :: '-' :: ds | 'E' :: '+' :: ds | 'E' :: '-' :: ds => digits ds
    | 'e' :: ds | 'E' :: ds => digits ds
    | _ => false

/-- A number, of which the infinite ones and none at all are some. -/
def isNumber (s : String) : Bool :=
  let magnitude :=
    match s.toList with
    | '+' :: cs | '-' :: cs => cs
    | cs => cs
  isDecimal magnitude ||
    ["inf", "infinity", "nan"].any fun name ↦ EqFold (String.ofList magnitude) name

/-- The value in the condition on a field: what stands between the first two equals signs. -/
def valueOf? (field : String) : Option String :=
  match field.toList.dropWhile (· ≠ '=') with
  | _ :: value => some (String.ofList (value.takeWhile (· ≠ '=')))
  | [] => none

/-- Checks the condition on a field. What is no number has to be a pattern. -/
def checkField (field : String) : Except Failure Unit :=
  if field = "" then .error (.error .directive)
  else
    match valueOf? field with
    | none => .ok ()
    | some value =>
      if isNumber value then .ok ()
      else
        match Pattern.check value with
        | .ok () => .ok ()
        | .error e => .error (.error (.pattern e))

/-- No character goes on at the position. -/
def isBorder (bs : Bytes) (position : Nat) : Bool :=
  match bs.drop position with
  | b :: _ => b < 0x80 || 0xC0 ≤ b
  | [] => true

/-- The text between two positions, which are counted in bytes. -/
def slice (bs : Bytes) (first last : Nat) : Except Failure String :=
  if isBorder bs first && isBorder bs last then
    .ok ((ofUtf8? ((bs.take last).drop first)).getD "")
  else .error .withinCharacter

/-- The part of a directive that is being read, and where it begins. -/
inductive Part where
  | start
  /-- A level, or the target of the events. -/
  | name
  | span (first : Nat)
  | field (first : Nat)
  | fields
  | target
  | level (first : Nat)
deriving DecidableEq, Repr

/-- Reads one character at a position. The text of a part is taken from `bs`. -/
def step (bs : Bytes) (part : Part) (position : Nat) (c : Char) : Except Failure Part :=
  match part with
  | .start =>
    if c = '[' then .ok (.span (position + 1))
    else if c ∈ ['-', ':', '_'] ∨ isLetterOrNumeral c then .ok .name
    else .error (.error .directive)
  | .name =>
    if c = '=' then (fun _ ↦ .level (position + 1)) <$> slice bs 0 position
    else if c = '[' then (fun _ ↦ .span (position + 1)) <$> slice bs 0 position
    else .ok .name
  | .span first =>
    if c = ']' then (fun _ ↦ .target) <$> slice bs first position
    else if c = '\x7b' then (fun _ ↦ .field (position + 1)) <$> slice bs first position
    else .ok part
  | .field first =>
    if c = '\x7d' then do
      checkField (← slice bs first position)
      return .fields
    else .ok part
  | .fields => if c = ']' then .ok .target else .error (.error .directive)
  | .target => if c = '=' then .ok (.level (position + 1)) else .error (.error .directive)
  | .level _ => .ok part

def scan (bs : Bytes) (part : Part) (position : Nat) : List Char → Except Failure Part
  | [] => .ok part
  | c :: cs => do scan bs (← step bs part position c) (position + c.utf8Size) cs

/-- Checks one directive. Positions are found without the blanks in front, but count with them. -/
def checkDirective (s : String) : Except Failure Unit := do
  let bs := utf8 s
  match ← scan bs .start 0 (trimChars s.toList) with
  | .name | .target => return
  | .level first =>
    if isLevel (← slice bs first bs.length) then return else .error (.error .level)
  | _ => .error (.error .directive)

/-- The parts of a text between commas. -/
def splitCommas : List Char → List (List Char)
  | [] => [[]]
  | c :: cs =>
    match splitCommas cs with
    | part :: parts => if c = ',' then [] :: part :: parts else (c :: part) :: parts
    | [] => [[c]]

/-- Checks a filter, which is made of directives with commas between them. -/
def check (s : String) : Except Failure Unit :=
  ((splitCommas s.toList).filter (· ≠ [])).forM fun cs ↦ checkDirective (String.ofList cs)

end LogFilter

end SignOn
