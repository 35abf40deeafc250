import SyntheticTable.Command.Request
import SyntheticTable.Number.Numeral

/-!
# Arguments

The command line as a list of arguments.  The one command is `generate`, and
what follows it are options with one value each.  The value is attached to the
name of the option, or it is the next argument, which then must not look like
an option itself.

Arguments are taken from left to right, so a fault counts only if no request
for help stands before it.  Each option is given at most once, except for the
kinds, which add up.
-/

namespace SyntheticTable.Command

/-- The options of the command. -/
inductive Setting where
  | specFile
  | types
  | columns
  | tableBytes
  | seed
  | threads
  | nullFrequency
  | cardinality
  | averageRunLength
  | format
deriving DecidableEq, Repr

namespace Setting

/-- All options. -/
def all : List Setting :=
  [specFile, types, columns, tableBytes, seed, threads, nullFrequency,
    cardinality, averageRunLength, format]

/-- The name after two dashes. -/
def name : Setting → String
  | specFile => "spec-file"
  | types => "types"
  | columns => "columns"
  | tableBytes => "table-bytes"
  | seed => "seed"
  | threads => "threads"
  | nullFrequency => "null-frequency"
  | cardinality => "cardinality"
  | averageRunLength => "avg-run-length"
  | format => "format"

/-- The option of a name. -/
def ofName? (name : String) : Option Setting :=
  all.find? fun setting => setting.name = name

end Setting

/-- Why no request is made of a list of arguments. -/
inductive Refusal where
  /-- The arguments ask how the command is used. -/
  | help
  /-- The arguments are not those of the command. -/
  | usage
deriving DecidableEq, Repr

/-- A value, or the refusal as a fault of usage. -/
def orUsage {α : Type} : Option α → Except Refusal α
  | some value => .ok value
  | none => .error .usage

/-- A setting that is given now and must not have been given before. -/
def givenOnce
    {α : Type}
    (before now : Option α) :
    Except Refusal (Option α) :=
  match before, now with
  | none, some value => .ok (some value)
  | _, _ => .error .usage

/-- Reads a path, which has at least one character. -/
def path? (text : String) : Option String :=
  if text.isEmpty then none else some text

/-- Reads the name of a format. -/
def Format.ofName? (text : String) : Option Format :=
  if text = "text" then some .text
  else if text = "json" then some .json
  else none

/-- Reads kinds with commas between them. -/
def types? (text : String) : Option (List SemanticType) :=
  (text.splitOn ",").mapM fun name => (SemanticType.ofName name).toOption

/-- What the arguments have said so far. -/
structure Draft where
  request : Request
  /-- The format, once it is given. -/
  format? : Option Format

/-- Enters the value of an option. -/
def Draft.enter
    (draft : Draft)
    (setting : Setting)
    (value : String) :
    Except Refusal Draft := do
  let request := draft.request
  match setting with
  | .specFile =>
      let specFile? ← givenOnce request.specFile? (path? value)
      return { draft with request := { request with specFile? } }
  | .types =>
      let types ← orUsage (types? value)
      return { draft with
        request := { request with types := request.types ++ types } }
  | .columns =>
      let columnCount? ← givenOnce request.columnCount? (Numeral.long? value)
      return { draft with request := { request with columnCount? } }
  | .tableBytes =>
      let tableBytes? ← givenOnce request.tableBytes? (Numeral.long? value)
      return { draft with request := { request with tableBytes? } }
  | .seed =>
      let seed? ← givenOnce request.seed? (Numeral.word? value)
      return { draft with request := { request with seed? } }
  | .threads =>
      let workers? ← givenOnce request.workers? (Numeral.long? value)
      return { draft with request := { request with workers? } }
  | .nullFrequency =>
      let nullFrequency? ←
        givenOnce request.nullFrequency? (Numeral.single? value)
      return { draft with request := { request with nullFrequency? } }
  | .cardinality =>
      let cardinality? ← givenOnce request.cardinality? (Numeral.long? value)
      return { draft with request := { request with cardinality? } }
  | .averageRunLength =>
      let averageRunLength? ←
        givenOnce request.averageRunLength? (Numeral.word? value)
      return { draft with request := { request with averageRunLength? } }
  | .format =>
      let format? ← givenOnce draft.format? (Format.ofName? value)
      return { draft with format? }

/-- What one argument is by its form. -/
inductive Argument where
  /-- The name of an option, whose value is still to come. -/
  | named (setting : Setting)
  /-- The name of an option together with its value. -/
  | attached (setting : Setting) (value : String)
  | help
  /-- The mark after which no option is looked for. -/
  | endOfOptions
  /-- Anything else. -/
  | other
deriving DecidableEq, Repr

namespace Argument

/-- An argument that starts with two dashes, without these. -/
def ofLong (body : List Char) : Argument :=
  let name := String.ofList (body.takeWhile (· ≠ '='))
  match body.dropWhile (· ≠ '=') with
  | [] =>
      if name = "help" then help
      else
        match Setting.ofName? name with
        | some setting => named setting
        | none => other
  | _ :: value =>
      match Setting.ofName? name with
      | some setting => attached setting (String.ofList value)
      | none => other

/-- An argument that starts with one dash, without it. -/
def ofShort : List Char → Argument
  | 'h' :: _ => help
  | ['s'] => named .specFile
  | 's' :: '=' :: value | 's' :: value =>
      attached .specFile (String.ofList value)
  | _ => other

/-- What an argument is. -/
def ofText (text : String) : Argument :=
  match text.toList with
  | ['-', '-'] => endOfOptions
  | '-' :: '-' :: body => ofLong body
  | '-' :: first :: rest => ofShort (first :: rest)
  | _ => other

/-- Whether an argument may be the value of the option before it. -/
def isValue (text : String) : Bool :=
  match text.toList with
  | '-' :: _ :: _ => false
  | _ => true

end Argument

/-- Takes the arguments after the command. -/
def Draft.enterAll (draft : Draft) : List String → Except Refusal Draft
  | [] => .ok draft
  | argument :: rest =>
      match Argument.ofText argument, rest with
      | .named setting, value :: others => do
          if Argument.isValue value then
            (← draft.enter setting value).enterAll others
          else
            throw .usage
      | .attached setting value, rest => do
          (← draft.enter setting value).enterAll rest
      | .help, _ => .error .help
      | .endOfOptions, [] => .ok draft
      | _, _ => .error .usage

/-- The request of a draft; the usual seed of the surroundings fills a gap. -/
def Draft.complete
    (draft : Draft)
    (usualSeed? : Option String) :
    Except Refusal Request := do
  let request := draft.request
  let seed? ←
    match request.seed?, usualSeed? with
    | none, some text => (orUsage (Numeral.word? text)).map some
    | given, _ => pure given
  return { request with seed?, format := draft.format?.getD request.format }

/--
The request of a list of arguments.  The seed of the surroundings is looked at
only if the arguments give none.
-/
def Request.ofArguments
    (usualSeed? : Option String) :
    List String → Except Refusal Request
  | "generate" :: rest => do
      let draft ← (Draft.mk .silent none).enterAll rest
      draft.complete usualSeed?
  | ["help"] | ["help", "generate"] | ["help", "help"] => .error .help
  | first :: _ =>
      .error (if Argument.ofText first = .help then .help else .usage)
  | [] => .error .usage

end SyntheticTable.Command
