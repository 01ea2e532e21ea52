import Conform.Fault
import Conform.Text.Quoted

/-!
# Paths

What stands under a path: its parts are followed one by one from the working directory, of which the
files and directories below it are known.  A directory outside of it counts as empty.
-/

namespace Conform

/-- What stands under a name. -/
inductive FileContent where
  | absent
  | directory
  | text (text : String)
  | bytes (octets : List UInt8)
  /-- Part of the name is a file where a directory would have to be. -/
  | belowFile
  /-- The name, or a part of it, is longer than names can be. -/
  | tooLong
  /-- The name holds a character that no name can hold. -/
  | unnameable

/-- Files and directories by name, relative to the working directory. -/
abbrev Files := List (String × FileContent)

namespace FilePath

/-- The parts of a path between slashes. -/
def splitSlashes (chars : List Char) : List String :=
  let (last, done) := chars.foldr
    (fun c (part, done) => if c == '/' then ([], part :: done) else (c :: part, done)) ([], [])
  (last :: done).map String.ofList

/-- The parts of a path that say something. -/
def parts (path : String) : List String :=
  (splitSlashes path.toList).filter fun part => part != "" && part != "."

/-- What an absolute path begins with: one slash, or exactly two. -/
def root (path : String) : String :=
  match path.toList with
  | '/' :: '/' :: '/' :: _ => "/"
  | '/' :: '/' :: _ => "//"
  | '/' :: _ => "/"
  | _ => ""

/-- A path in its plain form, without empty parts. -/
def normalize (path : String) : String :=
  let text := root path ++ joinWith "/" (parts path)
  if text = "" then "." else text

/-- The number of bytes that a part of a path may have. -/
def partLimit : Nat := 255

/-- The number of bytes that a path may have. -/
def lengthLimit : Nat := 4095

end FilePath

namespace Files

/-- Whether a name lies below another. -/
def isBelow (name directory : String) : Bool :=
  (directory ++ "/").toList.isPrefixOf name.toList

/-- What stands under a name without parts that lead upwards. -/
def named (files : Files) (name : String) : FileContent :=
  match files.lookup name with
  | some found => found
  | none => if files.any fun (other, _) => isBelow other name then .directory else .absent

/-- What stands under the parts of a path that is followed from a directory: one inside the working
directory, given by the parts of its name, or none inside it. -/
def follow (files : Files) : Option (List String) → List String → FileContent
  | _, [] => .directory
  | directory, part :: rest =>
    if part = ".." then
      match directory with
      | none | some [] => follow files none rest
      | some names => follow files (some names.dropLast) rest
    else if FilePath.partLimit < part.utf8ByteSize then .tooLong
    else
      match directory with
      | none => .absent
      | some names =>
        match files.named (joinWith "/" (names ++ [part])) with
        | .directory => follow files (some (names ++ [part])) rest
        | .absent => .absent
        | found => if rest.isEmpty then found else .belowFile

/-- What stands under a path. -/
def content (files : Files) (path : String) : FileContent :=
  if path.toList.contains '\x00' then .unnameable
  else if FilePath.lengthLimit < (FilePath.normalize path).utf8ByteSize then .tooLong
  else files.follow (if FilePath.root path = "" then some [] else none) (FilePath.parts path)

end Files

/-- The text with one sort of line end. -/
def normalizeLines : List Char → List Char
  | [] => []
  | '\r' :: '\n' :: rest => '\n' :: normalizeLines rest
  | '\r' :: rest => '\n' :: normalizeLines rest
  | c :: rest => c :: normalizeLines rest

namespace FileContent

/-- The text of a file. -/
def read (content : FileContent) : Attempt String :=
  match content with
  | .absent => .error .missingFile
  | .directory => .error .isDirectory
  | .belowFile => .error .notDirectory
  | .tooLong => .error .nameTooLong
  | .unnameable => .error .nullInPath
  | .text written => .ok (String.ofList (normalizeLines written.toList))
  | .bytes octets =>
    match String.fromUTF8? ⟨octets.toArray⟩ with
    | some written => .ok (String.ofList (normalizeLines written.toList))
    | none => .error .undecodable

/-- Whether there is something that could be read; of a name that is too long this cannot be
told. -/
def exists? : FileContent → Attempt Bool
  | .absent | .belowFile | .unnameable => .ok false
  | .tooLong => .error .nameTooLong
  | _ => .ok true

end FileContent

end Conform
