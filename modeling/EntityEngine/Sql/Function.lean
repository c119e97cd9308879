import EntityEngine.Sql.Function.Clock
import EntityEngine.Sql.Function.Json

/-!
The functions of expressions: their names, how many arguments they take, and what they give.
-/

namespace EntityEngine.Sql

open Number Text

inductive Function where
  | abs
  | changes
  | char
  | codePoint
  | compileOption
  | concat
  | currentDate
  | currentDateTime
  | currentTime
  | format
  | glob
  | greatest
  | hex
  | instr
  | joined
  | lastInsert
  | least
  | length
  | like
  | loadExtension
  | log
  | lower
  | nullIf
  | quote
  | random
  | randomBytes
  | replace
  | round
  | sign
  | size
  | soundex
  | sourceId
  | substr
  | subtype
  | trim
  | trimLeft
  | trimRight
  | typeOf
  | unhex
  | upper
  | version
  | zeros
  /-- A function that works on searched tables alone. -/
  | search (name : String)
  | clock (f : ClockFunction)
  | json (f : JsonFunction)
  deriving Repr, DecidableEq

/-- What stands behind the name of a function. -/
inductive Role where
  | scalar (f : Function)
  /-- The first argument that is not null. -/
  | coalesce
  /-- The second or the third argument, as the first one is true or not. -/
  | choice
  /-- The first argument; a second one says how likely it is. -/
  | likely
  /-- A function of many rows. -/
  | aggregate
  /-- A function of the rows around one. -/
  | window
  deriving Repr, DecidableEq

structure FunctionEntry where
  name : String
  role : Role
  least : Nat
  /-- Without a bound if there is none. -/
  most : Option Nat
  deriving Repr, DecidableEq

namespace FunctionEntry

def exactly (name : String) (role : Role) (n : Nat) : FunctionEntry := ⟨name, role, n, some n⟩

def upTo (name : String) (role : Role) (least most : Nat) : FunctionEntry :=
  ⟨name, role, least, some most⟩

def atLeast (name : String) (role : Role) (least : Nat) : FunctionEntry :=
  ⟨name, role, least, none⟩

/-- Functions of values of any kind. -/
def plain : List FunctionEntry := [
  exactly "abs" (.scalar .abs) 1, exactly "changes" (.scalar .changes) 0,
  exactly "total_changes" (.scalar .changes) 0, atLeast "char" (.scalar .char) 0,
  exactly "unicode" (.scalar .codePoint) 1, atLeast "concat" (.scalar .concat) 1,
  atLeast "concat_ws" (.scalar .joined) 2, exactly "current_date" (.scalar .currentDate) 0,
  exactly "current_time" (.scalar .currentTime) 0,
  exactly "current_timestamp" (.scalar .currentDateTime) 0, atLeast "format" (.scalar .format) 0,
  atLeast "printf" (.scalar .format) 0, exactly "glob" (.scalar .glob) 2,
  atLeast "max" (.scalar .greatest) 2, atLeast "min" (.scalar .least) 2,
  exactly "hex" (.scalar .hex) 1, exactly "instr" (.scalar .instr) 2,
  exactly "last_insert_rowid" (.scalar .lastInsert) 0, exactly "length" (.scalar .length) 1,
  upTo "like" (.scalar .like) 2 3, upTo "load_extension" (.scalar .loadExtension) 1 2,
  exactly "lower" (.scalar .lower) 1, exactly "nullif" (.scalar .nullIf) 2,
  exactly "octet_length" (.scalar .size) 1, exactly "quote" (.scalar .quote) 1,
  exactly "random" (.scalar .random) 0, exactly "randomblob" (.scalar .randomBytes) 1,
  exactly "replace" (.scalar .replace) 3, upTo "round" (.scalar .round) 1 2,
  exactly "sign" (.scalar .sign) 1, exactly "soundex" (.scalar .soundex) 1,
  exactly "sqlite_compileoption_get" (.scalar .compileOption) 1,
  exactly "sqlite_compileoption_used" (.scalar .compileOption) 1,
  exactly "sqlite_log" (.scalar .log) 2, exactly "sqlite_source_id" (.scalar .sourceId) 0,
  exactly "sqlite_version" (.scalar .version) 0, upTo "substr" (.scalar .substr) 2 3,
  upTo "substring" (.scalar .substr) 2 3, exactly "subtype" (.scalar .subtype) 1,
  upTo "trim" (.scalar .trim) 1 2, upTo "ltrim" (.scalar .trimLeft) 1 2,
  upTo "rtrim" (.scalar .trimRight) 1 2, exactly "typeof" (.scalar .typeOf) 1,
  upTo "unhex" (.scalar .unhex) 1 2, exactly "upper" (.scalar .upper) 1,
  exactly "zeroblob" (.scalar .zeros) 1, atLeast "coalesce" .coalesce 2,
  exactly "ifnull" .coalesce 2, exactly "iif" .choice 3, exactly "likely" .likely 1,
  exactly "unlikely" .likely 1, exactly "likelihood" .likely 2,
  exactly "match" (.scalar (.search "MATCH")) 2, atLeast "snippet" (.scalar (.search "snippet")) 0,
  exactly "offsets" (.scalar (.search "offsets")) 1,
  upTo "matchinfo" (.scalar (.search "matchinfo")) 1 2,
  exactly "optimize" (.scalar (.search "optimize")) 1]

/-- Functions of dates and times. -/
def clocks : List FunctionEntry :=
  (exactly "timediff" (.scalar (.clock .difference)) 2) ::
    ([.julianDay, .unixEpoch, .date, .time, .dateTime, .pattern] : List ClockFunction).map fun f =>
      atLeast f.name (.scalar (.clock f)) 0

/-- Functions of JSON. -/
def jsons : List FunctionEntry := [
  exactly "json" (.scalar (.json .minify)) 1, upTo "json_valid" (.scalar (.json .isValid)) 1 2,
  exactly "json_quote" (.scalar (.json .quote)) 1, atLeast "json_array" (.scalar (.json .array)) 0,
  atLeast "json_object" (.scalar (.json .object)) 0,
  atLeast "json_extract" (.scalar (.json .extract)) 0, exactly "->" (.scalar (.json .part)) 2,
  exactly "->>" (.scalar (.json .partValue)) 2, upTo "json_type" (.scalar (.json .kind)) 1 2,
  upTo "json_array_length" (.scalar (.json .arrayLength)) 1 2,
  exactly "json_error_position" (.scalar (.json .errorPosition)) 1,
  atLeast "json_insert" (.scalar (.json .insert)) 0,
  atLeast "json_replace" (.scalar (.json .replace)) 0, atLeast "json_set" (.scalar (.json .set)) 0,
  atLeast "json_remove" (.scalar (.json .remove)) 0, exactly "json_patch" (.scalar (.json .patch)) 2]

/-- Functions of several rows. -/
def aggregates : List FunctionEntry := [
  exactly "avg" .aggregate 1, upTo "count" .aggregate 0 1, upTo "group_concat" .aggregate 1 2,
  exactly "string_agg" .aggregate 2, exactly "max" .aggregate 1, exactly "min" .aggregate 1,
  exactly "sum" .aggregate 1, exactly "total" .aggregate 1,
  exactly "json_group_array" .aggregate 1, exactly "jsonb_group_array" .aggregate 1,
  exactly "json_group_object" .aggregate 2, exactly "jsonb_group_object" .aggregate 2,
  exactly "row_number" .window 0, exactly "rank" .window 0, exactly "dense_rank" .window 0,
  exactly "percent_rank" .window 0, exactly "cume_dist" .window 0, exactly "ntile" .window 1,
  exactly "first_value" .window 1, exactly "last_value" .window 1, exactly "nth_value" .window 2,
  upTo "lead" .window 1 3, upTo "lag" .window 1 3]

def all : List FunctionEntry := plain ++ clocks ++ jsons ++ aggregates

/-- Whether a call with some arguments is one of the function. -/
def admits (e : FunctionEntry) (arguments : Nat) : Bool :=
  e.least ≤ arguments && e.most.all fun n => arguments ≤ n

/-- The entries under a name. -/
def named (name : String) : List FunctionEntry := all.filter fun e => sameFold e.name name

end FunctionEntry

namespace Function

/-- The same arguments give the same result, apart from the time. -/
def isDeterministic : Function → Bool
  | changes | currentDate | currentDateTime | currentTime | lastInsert | loadExtension | log
  | random | randomBytes | search _ | sourceId | version => false
  | _ => true

/-- The collation of the arguments makes a difference. -/
def isCollated : Function → Bool
  | greatest | least | nullIf => true
  | _ => false

/-- Whether the result counts as JSON where it is put into another value. -/
def givesJson (f : Function) (v : Value) : Bool :=
  match f with
  | json f => f.givesJson v
  | _ => false

/-- The version of the database. -/
def versionText : String := "3.45.0"

/-- The mark of the database's build. -/
def sourceText : String :=
  "2024-01-15 17:01:13 1066602b2b1976fe58b5150777cced894af17c803e068f5918390d6915b46e1d"

/-- The longest pattern, in bytes. -/
def maxPattern : Nat := 50000

/-- Refuses a pattern that is too long. -/
def checkPattern (pattern : Value) : Except Fault Unit :=
  if maxPattern < pattern.toBytes.length then
    .error (.other "LIKE or GLOB pattern too complex")
  else .ok ()

/-- Whether a text is like a pattern, with an escape character or none. -/
def isLikeBy (escape : Option Char) (pattern v : Value) : Except Fault Value := do
  if pattern.isNull || v.isNull then return .null
  else
    checkPattern pattern
    let p := withBackslash escape (untilNull pattern.chars)
    return .ofBool (matchesPattern p (untilNull v.chars))

/-- The best of some values: the first one that no other is better than. -/
def best (isBetter : Value → Value → Bool) : Value → List Value → Value
  | v, [] => v
  | v, w :: ws => best isBetter (if isBetter w v then w else v) ws

/-- The magnitude of a value. -/
def magnitudeOf : Value → Except Fault Value
  | .null => .ok .null
  | .integer n =>
    if n = minInt64 then .error (.other "integer overflow") else .ok (.integer n.natAbs)
  | v =>
    let x := v.toDouble
    .ok (.real (if x < 0 then -x else x))

/-- The sign of a number; null for what is none. -/
def signOf (v : Value) : Value :=
  match Affinity.numeric.convert v with
  | .integer n => .integer n.sign
  | .real x => .integer (if x < 0 then -1 else if x > 0 then 1 else 0)
  | _ => .null

/-- A byte string of zeros. -/
def zerosOf (v : Value) : Except Fault Value :=
  let n := v.toInteger
  if 1000000000 < n then .error (.other "string or blob too big")
  else .ok (.blob (List.replicate n.toNat 0))

def apply (f : Function) (c : Collation) (setting : Setting) (arguments : List Argument) :
    Except Fault Value :=
  let vs := arguments.map Argument.value
  let text (g : String → String) (v : Value) : Value :=
    if v.isNull then .null else .text (g v.toText)
  match f, vs with
  | abs, [v] => magnitudeOf v
  | char, vs => .ok (.ofCodePoints vs)
  | codePoint, [v] => .ok v.codePoint
  | concat, vs => .ok (.joined "" vs)
  | joined, s :: vs => .ok (if s.isNull then .null else .joined s.toText vs)
  | currentDate, _ => (ClockFunction.date).apply { setting with purpose := .default } []
  | currentTime, _ => (ClockFunction.time).apply { setting with purpose := .default } []
  | currentDateTime, _ => (ClockFunction.dateTime).apply { setting with purpose := .default } []
  | format, vs => .ok (.format vs)
  | glob, [pattern, v] => do
    if pattern.isNull || v.isNull then return .null
    else
      checkPattern pattern
      return .ofBool (isGlob v.toText pattern.toText)
  | greatest, v :: vs =>
    .ok (if (v :: vs).any Value.isNull then .null
      else best (fun w v => (v.orderBy c w).isLT) v vs)
  | least, v :: vs =>
    .ok (if (v :: vs).any Value.isNull then .null
      else best (fun w v => (v.orderBy c w).isGE) v vs)
  | hex, [v] => .ok v.hex
  | instr, [v, part] => .ok (v.instr part)
  | lastInsert, _ => .ok (.integer setting.lastInsert)
  | length, [v] => .ok v.length
  | like, [pattern, v] => isLikeBy none pattern v
  | like, [pattern, v, escape] =>
    if escape.isNull then .ok .null
    else
      match untilNull escape.chars with
      | [e] => isLikeBy (some e) pattern v
      | _ => .error (.other "ESCAPE expression must be a single character")
  | loadExtension, _ =>
    .error (.other (if setting.purpose = .default then "unsafe use of load_extension()"
      else "not authorized"))
  | lower, [v] => .ok (text fold v)
  | nullIf, [v, w] => .ok (if (v.orderBy c w).isEq then .null else v)
  | quote, [v] => .ok v.quote
  | randomBytes, [v] => zerosOf (.integer (max 1 v.toInteger))
  | replace, [v, part, other] => .ok (v.replace part other)
  | round, [v] => .ok (v.round none)
  | round, [v, places] => .ok (v.round (some places))
  | sign, [v] => .ok (signOf v)
  | size, [v] => .ok v.size
  | soundex, [v] => .ok v.soundex
  | substr, [v, place] => .ok (v.substr place none)
  | substr, [v, place, count] => .ok (v.substr place (some count))
  | subtype, _ =>
    .ok (.integer (if arguments.any Argument.isJson then 74 else 0))
  | trim, v :: set =>
    .ok (v.trimWith (fun set s => Value.trimmedRight set (Value.trimmedLeft set s))
      (set.head?.getD (.text " ")))
  | trimLeft, v :: set => .ok (v.trimWith Value.trimmedLeft (set.head?.getD (.text " ")))
  | trimRight, v :: set => .ok (v.trimWith Value.trimmedRight (set.head?.getD (.text " ")))
  | typeOf, [v] => .ok (.text v.kindName)
  | unhex, [v] => .ok (v.unhex (.text ""))
  | unhex, [v, ignored] => .ok (v.unhex ignored)
  | upper, [v] => .ok (text capitals v)
  | zeros, [v] => zerosOf v
  | changes, _ | random, _ => .ok (.integer 0)
  | sourceId, _ => .ok (.text sourceText)
  | version, _ => .ok (.text versionText)
  | search name, _ =>
    .error (.other ("unable to use function " ++ name ++ " in the requested context"))
  | clock f, vs => f.apply setting vs
  | json f, _ => f.apply arguments
  | _, _ => .ok .null

end Function

end EntityEngine.Sql
