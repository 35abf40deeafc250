import SyntheticTable.Command.Outcome

/-!
# The program

Reads what the command needs from its surroundings, carries it out and writes
the outcome.
-/

namespace SyntheticTable.Program

open SyntheticTable.Command

/-- The fault that an error of the system tells of. -/
def readFault : IO.Error → ReadFault
  | .noFileOrDirectory .. => .missing
  | .inappropriateType _ code _ =>
      if code = 21 then .directory else .notDirectory
  | error => .other (toString error)

/-- Reads the file at a path. -/
def readFile (path : String) : IO (Except ReadFault String) := do
  match ← (IO.FS.readBinFile path).toBaseIO with
  | .error error => return .error (readFault error)
  | .ok bytes =>
      match String.fromUTF8? bytes with
      | some text => return .ok text
      | none => return .error .notText

/-- The file that the arguments name, read once. -/
def readNamedFile
    (usualSeed? : Option String)
    (arguments : List String) :
    IO Reader := do
  match (Request.ofArguments usualSeed? arguments).toOption.bind (·.specFile?) with
  | some path =>
      let content ← readFile path
      return fun _ => content
  | none => return fun _ => .error .missing

/-- Carries out the arguments and gives the exit code. -/
def run (arguments : List String) : IO UInt32 := do
  let usualSeed? ← IO.getEnv "DATAGEN_SEED"
  let read ← readNamedFile usualSeed? arguments
  let started ← IO.monoMsNow
  let outcome ←
    IO.lazyPure fun _ => Outcome.ofArguments usualSeed? read 1 arguments
  let stopped ← IO.monoMsNow
  let outcome := outcome.after (stopped - started)
  IO.print outcome.output
  IO.eprint outcome.complaint
  return outcome.code

end SyntheticTable.Program

/-- Runs the program. -/
def main (arguments : List String) : IO UInt32 :=
  SyntheticTable.Program.run arguments
