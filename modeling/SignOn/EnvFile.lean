import SignOn.Text.Blank
import SignOn.Text.Letter
import SignOn.Text.Utf8

/-! # Files that set variables -/

namespace SignOn.EnvFile

open Text

/-- The quotes and escapes that are open within a line. -/
inductive Quoting where
  | closed
  | blank
  | escape
  | weak
  | weakEscape
  | strong
  | strongEscape
deriving DecidableEq, Repr

namespace Quoting

/-- What a character makes of the quotes; nothing if it starts a comment. -/
def step (q : Quoting) (c : Char) : Option Quoting :=
  match q with
  | .blank => if c = '#' then none else some (opened c)
  | .closed => some (if isBlank c && c ≠ '\n' && c ≠ '\r' then .blank else opened c)
  | .escape => some .closed
  | .weak => some (if c = '\\' then .weakEscape else if c = '"' then .closed else .weak)
  | .weakEscape => some .weak
  | .strong => some (if c = '\\' then .strongEscape else if c = '\'' then .closed else .strong)
  | .strongEscape => some .strong
where
  opened (c : Char) : Quoting :=
    if c = '\\' then .escape else if c = '"' then .weak else if c = '\'' then .strong else .closed

/-- The characters up to a comment, and the quotes behind them unless there is one. -/
def scan (q : Quoting) : List Char → List Char × Option Quoting
  | [] => ([], some q)
  | c :: cs =>
    match q.step c with
    | none => ([], none)
    | some next => (c :: (scan next cs).1, (scan next cs).2)

end Quoting

/-- The lines of a file with the bytes that end them. -/
def byteLines : Bytes → List Bytes
  | [] => []
  | b :: bs =>
    if b = 10 then [b] :: byteLines bs
    else
      match byteLines bs with
      | [] => [[b]]
      | line :: lines => (b :: line) :: lines

/-- The texts of lines, up to the first that is none. -/
def readable : List Bytes → List (List Char)
  | [] => []
  | line :: lines =>
    match ofUtf8? line with
    | some s => s.toList :: readable lines
    | none => []

/-- The lines of a file; a mark of the byte order in front is passed over. -/
def physicalLines : Bytes → List (List Char)
  | 0xEF :: 0xBB :: 0xBF :: bs => readable (byteLines bs)
  | bs => readable (byteLines bs)

/-- Joins lines while quotes are open. The last one is missing if its quotes stay open. -/
def logicalLines (buffer : List Char) (q : Quoting) :
    List (List Char) → List (Option (List Char))
  | [] => if q = .closed then [] else [none]
  | line :: lines =>
    if ((buffer ++ line).dropWhile isBlank).head? = some '#' then
      logicalLines [] .closed lines
    else
      match q.scan line with
      | (kept, none) => some (buffer ++ kept) :: logicalLines [] .closed lines
      | (_, some .closed) => some (buffer ++ line) :: logicalLines [] .closed lines
      | (_, some next) => logicalLines (buffer ++ line) next lines

/-- A piece of a value: a character, or the value of a variable. -/
inductive Piece where
  | char (c : Char)
  | reference (name : String)
deriving DecidableEq, Repr

/-- Where within a value a character stands. -/
inductive Mode where
  | plain
  | weak
  | strong
  | escaped (weak : Bool)
  /-- In the name of a variable, given in reverse. -/
  | name (weak : Bool) (letters : List Char)
  | braced (weak : Bool) (letters : List Char)
  | ended
deriving DecidableEq, Repr

def Mode.within (weak : Bool) : Mode := if weak then .weak else .plain

def reference (letters : List Char) : Piece := .reference (String.ofList letters.reverse)

/-- The pieces of a value; nothing if a quote or a brace stays open or something follows the value
that is no comment. -/
def pieces (m : Mode) : List Char → Option (List Piece)
  | [] =>
    match m with
    | .plain | .ended | .escaped false => some []
    | .name false letters => some [reference letters]
    | _ => none
  | c :: cs =>
    match m with
    | .ended =>
      if c = ' ' ∨ c = '\t' then pieces .ended cs else if c = '#' then some [] else none
    | .escaped weak =>
      if c ∈ ['\\', '\'', '"', '$', ' '] then (.char c :: ·) <$> pieces (.within weak) cs
      else if c = 'n' then (.char '\n' :: ·) <$> pieces (.within weak) cs
      else none
    | .strong =>
      if c = '\'' then pieces .plain cs else (.char c :: ·) <$> pieces .strong cs
    | .name weak letters =>
      if isLetterOrNumeral c then pieces (.name weak (c :: letters)) cs
      else if c = '\x7b' ∧ letters = [] then pieces (.braced weak []) cs
      else if c = '$' then (reference letters :: ·) <$> pieces (.name weak []) cs
      else ([reference letters, .char c] ++ ·) <$> pieces (.within weak) cs
    | .braced weak letters =>
      if c = '\x7d' then (reference letters :: ·) <$> pieces (.within weak) cs
      else pieces (.braced weak (c :: letters)) cs
    | .weak =>
      if c = '$' then pieces (.name true []) cs
      else if c = '"' then pieces .plain cs
      else if c = '\\' then pieces (.escaped true) cs
      else (.char c :: ·) <$> pieces .weak cs
    | .plain =>
      if c = '$' then pieces (.name false []) cs
      else if c = '\'' then pieces .strong cs
      else if c = '"' then pieces .weak cs
      else if c = '\\' then pieces (.escaped false) cs
      else if c = ' ' ∨ c = '\t' then pieces .ended cs
      else (.char c :: ·) <$> pieces .plain cs

def isKeyStart (c : Char) : Bool := c.isAlpha || c = '_'

def isKeyChar (c : Char) : Bool := c.isAlphanum || c = '_' || c = '.'

/-- The key at the front, and what follows it and the blanks behind it. -/
def key? (cs : List Char) : Option (String × List Char) :=
  match cs with
  | c :: _ =>
    if isKeyStart c then
      some (String.ofList (cs.takeWhile isKeyChar), (cs.dropWhile isKeyChar).dropWhile isBlank)
    else none
  | [] => none

/-- An assignment; the word `export` may stand in front of the key. -/
def assignment? (cs : List Char) : Option (String × List Piece) := do
  let (key, rest) ← key? cs
  let (key, rest) ←
    if key = "export" ∧ rest.head? ≠ some '=' then key? rest else some (key, rest)
  match rest with
  | '=' :: value =>
    let value := value.dropWhile isBlank
    if value.head? = some '#' then return (key, []) else return (key, ← pieces .plain value)
  | _ => none

/-- What a line says: nothing, or an assignment; the outer option is empty if it is wrong. -/
def line? (cs : List Char) : Option (Option (String × List Piece)) :=
  let cs := trimChars cs
  match cs with
  | [] => some none
  | '#' :: _ => some none
  | cs => some <$> assignment? cs

/-- What a file says up to the first wrong line. -/
def assignments (bs : Bytes) : List (String × List Piece) :=
  go (logicalLines [] .closed (physicalLines bs))
where
  go : List (Option (List Char)) → List (String × List Piece)
    | some cs :: rest =>
      match line? cs with
      | some (some a) => a :: go rest
      | some none => go rest
      | none => []
    | _ => []

variable {m : Type → Type} [Monad m]

/-- The value of a variable: that of the environment, or else the one that the file set. -/
def find (environment : String → m (Option String)) (set : List (String × String))
    (name : String) : m (Option String) := do
  match ← environment name with
  | some value => return some value
  | none => return set.lookup name

/-- The text that pieces make up. A variable that is not set is empty. -/
def valueOf (environment : String → m (Option String)) (set : List (String × String)) :
    List Piece → m String
  | [] => return ""
  | .char c :: rest => return String.ofList [c] ++ (← valueOf environment set rest)
  | .reference name :: rest => do
    let value ← find environment set name
    return value.getD "" ++ (← valueOf environment set rest)

/-- The variables that assignments set. One that is set already keeps its value. -/
def load (environment : String → m (Option String)) (set : List (String × String)) :
    List (String × List Piece) → m (List (String × String))
  | [] => return set
  | (key, value) :: rest => do
    let text ← valueOf environment set value
    match ← find environment set key with
    | some _ => load environment set rest
    | none => load environment (set ++ [(key, text)]) rest

end SignOn.EnvFile
