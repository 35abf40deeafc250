import SyntheticTable.Command.Request

/-!
# Folders

Files in one folder, as paths lead to them that start in this folder.  Nothing
is known of what lies around the folder except that it is inside another one.
-/

namespace SyntheticTable.Command

/-- The files of a folder by name. -/
structure Folder where
  files : List (String × ByteArray)

namespace Folder

/-- How long the parts of a path can be, in bytes. -/
def longestName : Nat := 255

/-- How long a path can be, in bytes. -/
def longestPath : Nat := 4095

/-- Where a path has led so far. -/
inductive Place where
  /-- The folder, or one that lies so many levels above it. -/
  | above (levels : Nat)
  | file (content : ByteArray)

/-- Goes on from a place by one part of a path. -/
def step (folder : Folder) (place : Place) (part : String) :
    Except ReadFault Place :=
  match place with
  | .file _ => .error .notDirectory
  | .above levels =>
      if part = "" ∨ part = "." then .ok place
      else if part = ".." then .ok (.above (levels + 1))
      else if longestName < part.utf8ByteSize then .error .nameTooLong
      else
        match levels, folder.files.lookup part with
        | 0, some content => .ok (.file content)
        | _, _ => .error .missing

/-- The bytes of the file at a path. -/
def bytes (folder : Folder) (path : String) : Except ReadFault ByteArray := do
  if path.isEmpty then
    throw .missing
  else if path.contains '\x00' then
    throw .zeroInPath
  else if longestPath < path.utf8ByteSize then
    throw .nameTooLong
  else
    let start := if path.startsWith "/" then Place.above 1 else Place.above 0
    match ← (path.splitOn "/").foldlM folder.step start with
    | .file content => return content
    | .above _ => throw .directory

/-- The text that bytes are. -/
def decode (bytes : ByteArray) : Except ReadFault String :=
  match String.fromUTF8? bytes with
  | some text => .ok text
  | none => .error .notText

/-- Reads the file at a path. -/
def read (folder : Folder) : Reader := fun path => do
  decode (← folder.bytes path)

end Folder

end SyntheticTable.Command
