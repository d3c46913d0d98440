import SignOn.Text.Blank
import SignOn.Text.Letter

/-! # Regular expressions: which texts are some

Tables of the characters that belong to a property, a script or a class such as `\w`, or that
differ in case only, are not at hand. A text that needs one is refused.
-/

namespace SignOn.Pattern

open Text

/-- Why a text is no regular expression that an automaton can be built for. -/
inductive PatternError where
  | form
  /-- The borders of words are asked for, where words may have letters of any script. -/
  | wordBorder
deriving DecidableEq, Repr

/-- How the characters that follow are understood. -/
structure Mode where
  caseless : Bool
  /-- White space and comments do not count. -/
  spaced : Bool
  /-- Characters are meant, and not bytes. -/
  unicode : Bool
deriving DecidableEq, Repr

namespace Mode

def standard : Mode := ⟨false, false, true⟩

/-- Folding the case of characters takes a table. -/
def folds (m : Mode) : Bool := m.caseless && m.unicode

/-- What follows the white space and the comments at the front. -/
def skipFrom (comment : Bool) : List Char → List Char
  | [] => []
  | c :: cs =>
    if comment then skipFrom (c ≠ '\n') cs
    else if isBlank c then skipFrom false cs
    else if c = '#' then skipFrom true cs
    else c :: cs

def skip (m : Mode) (cs : List Char) : List Char := if m.spaced then skipFrom false cs else cs

/-- The mode after flags. Those behind a minus sign are switched off. -/
def change (m : Mode) (flags : List Char) : Mode :=
  let state (flag : Char) (old : Bool) : Bool :=
    if flag ∈ flags then flag ∈ flags.takeWhile (· ≠ '-') else old
  ⟨state 'i' m.caseless, state 'x' m.spaced, state 'u' m.unicode⟩

end Mode

/-- What counts about a part of a pattern. -/
structure Shape where
  /-- The levels of nesting. -/
  depth : Nat
  /-- Borders of words are asked for. -/
  borders : Bool
deriving DecidableEq, Repr

namespace Shape

def leaf : Shape := ⟨0, false⟩

/-- One level around parts. -/
def around (parts : List Shape) : Shape :=
  ⟨(parts.map depth).foldl max 0 + 1, parts.any borders⟩

/-- Parts in a row, or one beside the other. -/
def join : List Shape → Shape
  | [] => leaf
  | [s] => s
  | parts => around parts

end Shape

/-! ## Escapes -/

/-- What a backslash makes of the characters behind it. -/
inductive Escape where
  | char (c : Char)
  | set
  /-- A place between characters, which may be the border of a word. -/
  | place (border : Bool)
deriving DecidableEq, Repr

def hexValue? (c : Char) : Option Nat :=
  if c.isDigit then some (c.toNat - 48)
  else if 'a' ≤ c ∧ c ≤ 'f' then some (c.toNat - 87)
  else if 'A' ≤ c ∧ c ≤ 'F' then some (c.toNat - 55)
  else none

/-- The value of as many hexadecimal digits, appended to `v`. -/
def hex (m : Mode) : Nat → Nat → List Char → Option (Nat × List Char)
  | 0, v, cs => some (v, cs)
  | n + 1, v, c :: cs => (hexValue? c).bind fun d ↦ hex m n (16 * v + d) (m.skip cs)
  | _ + 1, _, [] => none

/-- The character with a code of `n` hexadecimal digits. -/
def coded (m : Mode) (n : Nat) (cs : List Char) : Option (Escape × List Char) := do
  let (v, rest) ← hex m n 0 (m.skip cs)
  if v < 0xD800 ∨ (0xE000 ≤ v ∧ v < 0x110000) then return (.char (Char.ofNat v), rest) else none

/-- What an escape means, given what stands behind the backslash. -/
def escape (m : Mode) : List Char → Option (Escape × List Char)
  | [] => none
  | c :: cs =>
    match c with
    | 'x' => do
      let (e, rest) ← coded m 2 cs
      match e with
      | .char c => if m.unicode || c.toNat < 128 then return (e, rest) else none
      | _ => none
    | 'u' => coded m 4 cs
    | 'U' => coded m 8 cs
    | 'd' | 's' | 'w' => if m.unicode then none else some (.set, cs)
    | 'a' | 'f' | 't' | 'n' | 'r' | 'v' => some (.char c, cs)
    | 'A' | 'z' => some (.place false, cs)
    | 'b' | 'B' | '<' | '>' => some (.place true, cs)
    | c => if c.toNat < 128 && !c.isAlphanum then some (.char c, cs) else none

/-! ## Sets of characters between brackets -/

/-- A bracket that is open: the operand on the left, if there is an operator, and the depths of the
members behind it. -/
structure Level where
  left : Option Nat
  members : List Nat
deriving DecidableEq, Repr

namespace Level

/-- The depth of all that stands between the brackets. -/
def depth (l : Level) : Nat :=
  let right :=
    match l.members with
    | [] => 0
    | [d] => d
    | ds => ds.foldl max 0 + 1
  match l.left with
  | none => right
  | some d => max d right + 1

def push (l : Level) (d : Nat) : Level := { l with members := d :: l.members }

end Level

/-- The names of sets of ASCII characters. -/
def asciiSets : List String :=
  ["alnum", "alpha", "ascii", "blank", "cntrl", "digit", "graph", "lower", "print", "punct",
    "space", "upper", "word", "xdigit"]

/-- Whether a named set behind a bracket is negated, and what follows it. -/
def asciiSet? : List Char → Option (Bool × List Char)
  | ':' :: cs =>
    let (negated, cs) :=
      match cs with
      | '^' :: cs => (true, cs)
      | cs => (false, cs)
    match cs.dropWhile (· ≠ ':') with
    | ':' :: ']' :: rest =>
      if String.ofList (cs.takeWhile (· ≠ ':')) ∈ asciiSets then some (negated, rest) else none
    | _ => none
  | _ => none

/-- The dashes at the front of a set, which stand for themselves. -/
def dashes (m : Mode) : Nat → Level → List Char → Level × List Char
  | fuel + 1, l, '-' :: cs => dashes m fuel (l.push 0) (m.skip cs)
  | _, l, cs => (l, cs)

/-- Opens a bracket. A closing bracket at the front stands for itself. -/
def openSet (m : Mode) (cs : List Char) : Option (Level × List Char) :=
  let (negated, cs) :=
    match m.skip cs with
    | '^' :: cs => (true, m.skip cs)
    | cs => (false, cs)
  if negated && !m.unicode then none
  else
    match dashes m cs.length ⟨none, []⟩ cs with
    | (⟨_, []⟩, ']' :: rest) => some (⟨none, [0]⟩, m.skip rest)
    | found => some found

/-- One member: a character, or a set of them. -/
def member (m : Mode) : List Char → Option (Option Char × List Char)
  | [] => none
  | '\\' :: cs =>
    match escape m cs with
    | some (.char c, rest) => if m.unicode || c.toNat < 128 then some (some c, rest) else none
    | some (.set, rest) => some (none, rest)
    | _ => none
  | c :: cs => if m.unicode || c.toNat < 128 then some (some c, cs) else none

/-- A member or a range of them. -/
def range (m : Mode) (cs : List Char) : Option (List Char) := do
  let (first, rest) ← member m cs
  match m.skip rest with
  | '-' :: rest =>
    match m.skip rest with
    | ']' :: _ | '-' :: _ => return '-' :: rest
    | rest =>
      match first, ← member m rest with
      | some a, (some b, rest) => if a ≤ b then return rest else none
      | _, _ => none
  | rest => return rest

/-- Reads to the end of a set. The innermost bracket that is open comes first. -/
def set (m : Mode) : Nat → Level → List Level → List Char → Option (Nat × List Char)
  | 0, _, _, _ => none
  | fuel + 1, l, outer, cs =>
    match m.skip cs with
    | [] => none
    | '[' :: rest =>
      match asciiSet? rest with
      | some (negated, rest) =>
        if negated && !m.unicode then none else set m fuel (l.push 0) outer rest
      | none => do
        let (inner, rest) ← openSet m rest
        set m fuel inner (l :: outer) rest
    | ']' :: rest =>
      match outer with
      | [] => some (l.depth + 1, rest)
      | l' :: outer => set m fuel (l'.push (l.depth + 1)) outer rest
    | '&' :: '&' :: rest | '-' :: '-' :: rest | '~' :: '~' :: rest =>
      set m fuel ⟨some l.depth, []⟩ outer rest
    | cs => do
      let rest ← range m cs
      set m fuel (l.push 0) outer rest

/-! ## Groups -/

/-- What a parenthesis opens. -/
inductive Opening where
  | group (m : Mode)
  /-- Flags for the rest of the group around. -/
  | flags (m : Mode)
deriving DecidableEq, Repr

/-- The name of a group, and what follows it. -/
def name? (cs : List Char) : Option (String × List Char) :=
  match cs.takeWhile (· ≠ '>'), cs.dropWhile (· ≠ '>') with
  | first :: more, '>' :: rest =>
    if (first = '_' || isLetter first) &&
        more.all (fun c ↦ c ∈ ['_', '.', '[', ']'] || isLetterOrNumeral c) then
      some (String.ofList (first :: more), rest)
    else none
  | _, _ => none

/-- Flags, the character that ends them, and what follows it. None comes twice, and something
stands behind the minus sign. -/
def flags (seen : List Char) : List Char → Option (List Char × Char × List Char)
  | [] => none
  | c :: cs =>
    if c = ':' ∨ c = ')' then
      if seen.head? = some '-' then none else some (seen.reverse, c, cs)
    else if c ∈ ['i', 'm', 's', 'U', 'u', 'R', 'x', '-'] ∧ c ∉ seen then flags (c :: seen) cs
    else none

/-- Reads what follows a parenthesis, given the names of the groups so far. -/
def opening (m : Mode) (names : List String) (cs : List Char) :
    Option (Opening × List String × List Char) :=
  let named (cs : List Char) : Option (Opening × List String × List Char) := do
    let (name, rest) ← name? cs
    if name ∈ names then none else return (.group m, name :: names, rest)
  match m.skip cs with
  | '?' :: 'P' :: '<' :: rest => named rest
  | '?' :: '<' :: '=' :: _ | '?' :: '<' :: '!' :: _ => none
  | '?' :: '<' :: rest => named rest
  | '?' :: rest => do
    let (fs, last, rest) ← flags [] rest
    if last = ':' then return (.group (m.change fs), names, rest)
    else if fs = [] then none
    else return (.flags (m.change fs), names, rest)
  | rest => some (.group m, names, rest)

/-! ## The whole -/

/-- A group that is open. -/
structure Frame where
  mode : Mode
  /-- The alternatives that are complete. -/
  branches : List Shape
  /-- The parts of the current one, the last first, and whether each can be repeated. -/
  parts : List (Shape × Bool)
deriving DecidableEq, Repr

namespace Frame

def start (m : Mode) : Frame := ⟨m, [], []⟩

def push (f : Frame) (s : Shape) : Frame := { f with parts := (s, true) :: f.parts }

def branch (f : Frame) : Shape := .join (f.parts.reverse.map Prod.fst)

def shape (f : Frame) : Shape := .join (f.branches ++ [f.branch])

/-- Begins another alternative. -/
def alternate (f : Frame) : Frame := { f with branches := f.branches ++ [f.branch], parts := [] }

def setMode (f : Frame) (m : Mode) : Frame :=
  { f with mode := m, parts := (.leaf, false) :: f.parts }

/-- Repeats the last part. -/
def repeat? (f : Frame) : Option Frame :=
  match f.parts with
  | (s, true) :: parts => some { f with parts := (.around [s], true) :: parts }
  | _ => none

/-- Appends a character. -/
def literal? (f : Frame) : Option Frame := if f.mode.folds then none else some (f.push .leaf)

end Frame

/-- Reads to the end. The innermost group that is open comes first. -/
def scan : Nat → Frame → List Frame → List String → List Char → Option Shape
  | 0, _, _, _, _ => none
  | fuel + 1, f, outer, names, cs =>
    match f.mode.skip cs with
    | [] => if outer.isEmpty then some f.shape else none
    | '(' :: rest => do
      match ← opening f.mode names rest with
      | (.group m, names, rest) => scan fuel (.start m) (f :: outer) names rest
      | (.flags m, names, rest) => scan fuel (f.setMode m) outer names rest
    | ')' :: rest =>
      match outer with
      | [] => none
      | g :: outer => scan fuel (g.push (.around [f.shape])) outer names rest
    | '|' :: rest => scan fuel f.alternate outer names rest
    | '[' :: rest => do
      let (l, rest) ← openSet f.mode rest
      let (d, rest) ← set f.mode fuel l [] rest
      if f.mode.folds then none else scan fuel (f.push ⟨d, false⟩) outer names rest
    | '*' :: rest | '+' :: rest | '?' :: rest => do
      let f ← f.repeat?
      match rest with
      | '?' :: rest => scan fuel f outer names rest
      | rest => scan fuel f outer names rest
    | '\x7b' :: _ => none
    | '\\' :: rest => do
      match ← escape f.mode rest with
      | (.char _, rest) => scan fuel (← f.literal?) outer names rest
      | (.set, rest) => scan fuel (f.push .leaf) outer names rest
      | (.place border, rest) =>
        scan fuel (f.push ⟨0, border && f.mode.unicode⟩) outer names rest
    | '.' :: rest => if f.mode.unicode then scan fuel (f.push .leaf) outer names rest else none
    | '^' :: rest | '$' :: rest => scan fuel (f.push .leaf) outer names rest
    | _ :: rest => do scan fuel (← f.literal?) outer names rest

/-- The greatest number of levels of nesting. -/
def maxDepth : Nat := 250

/-- Whether a text is a regular expression. Counted repetitions have no place in it. -/
def check (s : String) : Except PatternError Unit :=
  match scan (s.length + 1) (.start .standard) [] [] s.toList with
  | none => .error .form
  | some shape =>
    if maxDepth < shape.depth then .error .form
    else if shape.borders then .error .wordBorder
    else .ok ()

end SignOn.Pattern
