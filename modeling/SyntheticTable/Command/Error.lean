import SyntheticTable.Generate
import SyntheticTable.Store
import SyntheticTable.TableSpec.Decode

/-!
# Command errors

Why a command fails.  An error may be the consequence of another one, and is
told together with its causes, the outermost first.
-/

namespace SyntheticTable.Command

/-- Why a file cannot be read as a text. -/
inductive ReadFault where
  | missing
  | directory
  /-- A file is used like a directory. -/
  | notDirectory
  | nameTooLong
  /-- The path has a character that no path can have. -/
  | zeroInPath
  /-- The bytes are no text. -/
  | notText
  | other (description : String)
deriving DecidableEq, Repr

/-- The wording of a fault. -/
def ReadFault.message : ReadFault → String
  | missing => "No such file or directory (os error 2)"
  | directory => "Is a directory (os error 21)"
  | notDirectory => "Not a directory (os error 20)"
  | nameTooLong => "File name too long (os error 36)"
  | zeroInPath => "file name contained an unexpected NUL byte"
  | notText => "stream did not contain valid UTF-8"
  | other description => description

/-- Why a file gives no specification. -/
inductive SpecFileError where
  | unreadable (fault : ReadFault)
  | unsuitable (error : YamlError)
deriving DecidableEq, Repr

/-- The error and its cause. -/
def SpecFileError.causes : SpecFileError → List String
  | unreadable fault =>
      ["Failed to read spec file: " ++ fault.message, fault.message]
  | unsuitable error =>
      ["Failed to parse YAML: " ++ error.message, error.message]

/-- The error and its cause, if it has one. -/
def generateCauses : GenerateError → List String
  | .spec error => [GenerateError.message (.spec error), error.message]
  | error => [error.message]

/-- Why a command fails. -/
inductive Error where
  | specFile (path : String) (error : SpecFileError)
  | noTypes
  | generate (error : GenerateError)
  /-- A generated column cannot be read throughout. -/
  | unreadableColumn (fault : AccessFault)
  | store (error : StoreError)
deriving DecidableEq, Repr

namespace Error

/-- The error and its causes, the outermost first. -/
def causes : Error → List String
  | specFile path error =>
      ("Failed to load spec from " ++ Text.shown path) :: error.causes
  | noTypes => ["no column types given; pass --types or --spec-file"]
  | generate error => "Table generation failed" :: generateCauses error
  | unreadableColumn _ => ["A generated column cannot be read"]
  | store error => ["Storage hand-off failed", error.message]

/-- The wording of the error. -/
def message (error : Error) : String :=
  ": ".intercalate error.causes

end Error

end SyntheticTable.Command
