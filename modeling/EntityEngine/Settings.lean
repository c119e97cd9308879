import EntityEngine.Json.Shape
import EntityEngine.Text.Quoted

/-!
The settings of a server, with defaults for those that are not given.
-/

namespace EntityEngine

open Json

structure Settings where
  host : String := "127.0.0.1"
  port : Nat := 8080
  /-- What comes before `/$metadata` in the context of a query's answer. -/
  baseUrl? : Option String := none
  storePath : String := "protean.db"
  deriving Repr, DecidableEq

namespace Settings

def shape : Shape := .record [
  ("host", .defaulting (.text "127.0.0.1"), .text),
  ("port", .defaulting (.integer 8080), .nat16),
  ("base_url", .optional, .text),
  ("store_path", .defaulting (.text "protean.db"), .text)]

/-- The settings that a value of the form describes. -/
def ofJson (v : Json) : Settings where
  host := v.getText "host"
  port := (v.getInteger "port").toNat
  baseUrl? := v.getText? "base_url"
  storePath := v.getText "store_path"

def address (s : Settings) : String := s.host ++ ":" ++ toString s.port

def baseUrl (s : Settings) : String := s.baseUrl?.getD ("http://" ++ s.address)

/-- A path inside a directory; an absolute path stays what it is. -/
def within (directory path : List Char) : List Char :=
  match path with
  | '/' :: _ => path
  | _ =>
    if directory.isEmpty ∨ directory.getLast? = some '/' then directory ++ path
    else directory ++ '/' :: path

/-- A path with the home directory in place of a leading `~`. -/
def expandHome (home : Option String) (path : String) : String :=
  match path.toList, home with
  | '~' :: '/' :: rest, some home => String.ofList (within home.toList rest)
  | _, _ => path

/-- What a server says that cannot open its store at a path. -/
def openFailure (path : String) : String := "failed to open store at " ++ Text.quoted path

end Settings

end EntityEngine
