import EntityEngine.Http.Response
import EntityEngine.Settings

/-!
The command line. Requests are read from standard input, one JSON object a line, and a line with
the response is printed for each. The first argument names a file with settings in JSON; without
one, or where the file cannot be read, the defaults hold. The store lives as long as the program.
-/

namespace EntityEngine.Serve

open Json Time

/-- The form of a line with a request. -/
def requestShape : Shape := .record [
  ("method", .defaulting (.text "GET"), .text), ("uri", .required, .text),
  ("content_type", .defaulting (.text "application/json"), .text), ("actor", .optional, .text),
  ("body", .defaulting (.text ""), .text), ("time", .optional, .text)]

/-- The request that a value of the form describes. -/
def requestOf (v : Json) : Http.Request where
  method := v.getText "method"
  address := .ofText (v.getText "uri")
  contentType := v.getText? "content_type"
  actor := v.getText? "actor"
  body := v.getText "body"

/-- When a request was made: at the time it tells, or else at the time of the one before it. -/
def timeOf (v : Json) (last : Instant) : Instant :=
  ((v.getText? "time").bind Instant.parse?).getD last

/-- The line that tells a response. After an overflow there is none, and its cause is told. -/
def responseOf : Except Number.Overflow Http.Response → Json
  | .error o => .object [("error", .text o.message)]
  | .ok r => .object [("body", match r.body with
      | .json v => v
      | .text s => .text s
      | .empty => .null), ("status", .integer r.status)]

/-- What a line is answered with that is no request. -/
def noRequest (f : InputFault) : Json :=
  .object [("error", .text (match f with
    | .malformed => "the line is not JSON"
    | .mismatch => "the line is no request"))]

/-- The settings in a text, if it has their form. -/
def settingsOf? (s : String) : Option Settings :=
  (Settings.shape.readText s).toOption.map Settings.ofJson

/-- Some random bytes as digits in base sixteen. -/
def randomText (bytes : USize) : IO String := do
  return Text.hexText ((← IO.getRandomBytes bytes).toList.map UInt8.toNat)

/-- Answers one line, with the engine and the time after it. -/
def answer (g : Engine) (last : Instant) (line : String) : IO (Json × Engine × Instant) := do
  match requestShape.readText line with
  | .error f => return (noRequest f, g, last)
  | .ok v =>
    let now := timeOf v last
    let ambient : Ambient := ⟨now, ← randomText 16, ← randomText 6⟩
    let (response, g) := Http.respond g (requestOf v) ambient
    return (responseOf response, g, now)

/-- Answers lines until the input ends. -/
partial def serve (input output : IO.FS.Stream) (g : Engine) (last : Instant) : IO Unit := do
  let line ← input.getLine
  if line.isEmpty then return
  let (v, g, now) ← answer g last line
  output.putStrLn v.render
  output.flush
  serve input output g now

/-- The settings that the arguments of the program lead to. -/
def settingsFor (arguments : List String) : IO Settings :=
  match arguments.head? with
  | none => return {}
  | some path => do
    let s ← try IO.FS.readFile path catch _ => pure "\x7b\x7d"
    match settingsOf? s with
    | some settings => return settings
    | none => throw (IO.userError "failed to read the settings")

end EntityEngine.Serve

open EntityEngine

def main (arguments : List String) : IO Unit := do
  let settings ← Serve.settingsFor arguments
  let g := Engine.start .empty settings.baseUrl
  Serve.serve (← IO.getStdin) (← IO.getStdout) g ⟨0, 0⟩
