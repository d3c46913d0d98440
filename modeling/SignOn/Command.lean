import SignOn.EnvFile
import SignOn.Jose.KeyRing
import SignOn.Publication
import SignOn.Settings

/-! # The command: prints what a service publishes about its keys -/

namespace SignOn

open Jose

/-- What the command leaves behind. -/
structure Printed where
  exitCode : UInt32
  output : String
  errors : List String
deriving DecidableEq, Repr

namespace Command

variable {m : Type → Type} [Monad m]

/-- The name of the file that sets variables. -/
def envFileName : String := ".env"

/-- The variable with a filter of events that goes before the level. -/
def filterVariable : String := "RUST_LOG"

/-- The lines of a text, those behind the first one set in. -/
def indent (s : String) : List String :=
  (splitLines s.toList).map fun cs ↦ "    " ++ String.ofList cs
where
  splitLines : List Char → List (List Char)
    | [] => [[]]
    | c :: cs =>
      match splitLines cs with
      | line :: lines => if c = '\n' then [] :: line :: lines else (c :: line) :: lines
      | [] => [[c]]

/-- Tells during what the command failed, and why. -/
def failed (during cause : String) : Printed :=
  ⟨1, "", ["Error: " ++ during, "", "Caused by:"] ++ indent cause⟩

/-- Stopped short, for a reason that no error tells. -/
def aborted : Printed := ⟨101, "", []⟩

/-- The documents of a service, each behind the other. -/
def documents (issuer : String) (s : Service) : String :=
  (ProviderMetadata.ofService issuer s).toJson.lines ++ "\n" ++
    (PublishedKeys.ofService s).toJson.text ++ "\n"

/-- Reads the keys and prints the documents. -/
def publish (settings : Settings) (keys : StoredFile) : Printed :=
  match KeyRing.load settings.keyStorePath keys with
  | .error e => failed "loading keystore" e.message
  | .ok ring =>
    match Service.build ring settings.defaults with
    | .error (.error e) => failed "building JOSE service" e.message
    | .error .negativeDifference => aborted
    | .ok s => ⟨0, documents settings.issuer s, []⟩

/-- What is said about a filter of events that cannot be used. -/
def filterWarning (settings : Settings) (e : FilterError) : String :=
  "tracing not initialized: " ++ settings.logging.filterMessage e

/-- The values of variables that are set. -/
def collect (find : String → m (Option String)) : List String → m (List (String × String))
  | [] => return []
  | name :: rest => do
    let value ← find name
    let more ← collect find rest
    match value with
    | some value => return (name, value) :: more
    | none => return more

/-- Runs the command, given the environment and the files it may read. -/
def run (environment : String → m (Option String)) (file : String → m StoredFile) :
    m Printed := do
  let set ←
    match ← file envFileName with
    | .content bs => EnvFile.load environment [] (EnvFile.assignments bs)
    | .absent | .directory => pure []
  let find := EnvFile.find environment set
  let values ← collect find Settings.names
  match Settings.ofLookup (values.lookup ·) with
  | .error e => return failed "loading configuration" e.message
  | .ok settings =>
    match settings.logging.checkFilter (← find filterVariable) with
    | .ok () => return publish settings (← file settings.keyStorePath)
    | .error .withinCharacter => return aborted
    | .error (.error e) =>
      let printed := publish settings (← file settings.keyStorePath)
      return { printed with errors := filterWarning settings e :: printed.errors }

end Command

end SignOn
