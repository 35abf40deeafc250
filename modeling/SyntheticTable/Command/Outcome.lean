import SyntheticTable.Command.Arguments
import SyntheticTable.Command.Report

/-!
# Outcomes

How a run of the program ends: with a report, with an error, or with a refusal
to start.  The outcome fixes the exit code and what is written where.
-/

namespace SyntheticTable.Command

/-- How a run of the program ends. -/
inductive Outcome where
  | reported (format : Format) (report : Report)
  | failed (error : Error)
  | refused (refusal : Refusal)
deriving DecidableEq, Repr

namespace Outcome

/-- The outcome of a request. -/
def ofRequest (request : Request) (read : Reader) (processors : Nat) : Outcome :=
  match request.run read processors with
  | .ok report => reported request.format report
  | .error error => failed error

/-- The outcome of a list of arguments. -/
def ofArguments
    (usualSeed? : Option String)
    (read : Reader)
    (processors : Nat)
    (arguments : List String) :
    Outcome :=
  match Request.ofArguments usualSeed? arguments with
  | .ok request => ofRequest request read processors
  | .error refusal => refused refusal

/-- The outcome when the run has taken a time. -/
def after (milliseconds : Nat) : Outcome → Outcome
  | reported format report =>
      reported format { report with elapsedMilliseconds := milliseconds }
  | outcome => outcome

/-- The exit code. -/
def code : Outcome → UInt32
  | reported _ _ | refused .help => 0
  | failed _ => 1
  | refused .usage => 2

/-- How the command is used. -/
def usage : String :=
  "usage: generate "
    ++ " ".intercalate
      (Setting.all.map fun setting => "[--" ++ setting.name ++ " VALUE]")

/-- What is written as the result. -/
def output : Outcome → String
  | reported format report => report.render format ++ "\n"
  | refused .help => usage ++ "\n"
  | failed _ | refused .usage => ""

/-- What is written as a complaint. -/
def complaint : Outcome → String
  | failed error => "Error: " ++ error.message ++ "\n"
  | refused .usage => usage ++ "\n"
  | reported _ _ | refused .help => ""

end Outcome

end SyntheticTable.Command
