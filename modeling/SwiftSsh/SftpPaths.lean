import SwiftSsh.FileSystem
import SwiftSsh.WireBuffer

namespace SwiftSsh.SftpPaths

open SwiftSsh.ByteWords
open SwiftSsh.RustOutcome
open SwiftSsh.WireTypes
open SwiftSsh.WireBuffer
open SwiftSsh.FileTree
open SwiftSsh.FileSystem

/-- File names are byte strings. -/
abbrev Name := Bytes

/-- The slash. -/
def separator : UInt8 := 47

/-- Empty parts and single dots change nothing. -/
def segmentOf (part : Bytes) : Segment Name :=
  if part = [] ∨ part = [46] then .current
  else if part = [46, 46] then .parent
  else .name part

/-- The parts of a text between its slashes. -/
def segmentsOf (text : Bytes) : List (Segment Name) :=
  (text.splitOn separator).map segmentOf

/-- `PathBuf::from`. -/
def pathFrom (text : Bytes) : PathText Name :=
  match text with
  | [] => ⟨false, []⟩
  | byte :: rest =>
      if byte = separator then ⟨true, segmentsOf rest⟩ else ⟨false, segmentsOf text⟩

/-- `Path::join`. An absolute text replaces the path. An empty path joined with an empty text,
which stays empty in Rust, is not modelled: it becomes the working directory here. -/
def joinPath (path : PathText Name) (text : Bytes) : PathText Name :=
  if text.head? = some separator then pathFrom text
  else ⟨path.absolute, path.segments ++ segmentsOf text⟩

/-- `std::path::Component`. -/
inductive Component where
  | rootDir
  | curDir
  | parentDir
  | normal (name : Name)
  deriving DecidableEq

/-- A segment as a component; `Components` leaves out single dots. -/
def componentOf : Segment Name → Option Component
  | .current => none
  | .parent => some .parentDir
  | .name name => some (.normal name)

/-- `Path::components`. A dot counts only at the start of a relative path. -/
def components (path : PathText Name) : List Component :=
  let body := path.segments.filterMap componentOf
  if path.absolute then .rootDir :: body
  else if path.segments.head? = some .current then .curDir :: body
  else body

/-- `PathBuf::push` of a component. -/
def pushComponent (path : PathText Name) : Component → PathText Name
  | .rootDir => ⟨true, []⟩
  | .curDir => { path with segments := path.segments ++ [.current] }
  | .parentDir => { path with segments := path.segments ++ [.parent] }
  | .normal name => { path with segments := path.segments ++ [.name name] }

/-- `PathBuf` from components. -/
def collectComponents (components : List Component) : PathText Name :=
  components.foldl pushComponent ⟨false, []⟩

/-- One round of the loop in `normalize_path`. -/
def normalizeStep (components : List Component) : Component → List Component
  | .parentDir => components.dropLast
  | .curDir => components
  | component => components ++ [component]

/-- Resolve dots without the file system. -/
def normalizePath (path : PathText Name) : PathText Name :=
  collectComponents ((components path).foldl normalizeStep [])

/-- `Path::starts_with`. -/
def startsWith (path front : PathText Name) : Bool :=
  (components front).isPrefixOf (components path)

/-- How a segment is written. -/
def segmentText : Segment Name → Bytes
  | .current => [46]
  | .parent => [46, 46]
  | .name name => name

/-- The bytes of a path without empty segments. -/
def textOf (path : PathText Name) : Bytes :=
  (if path.absolute then [separator] else []) ++
    ([separator] : Bytes).intercalate (path.segments.map segmentText)

/-- The path a request names, under the root. -/
def requestedPath (root : PathText Name) (requested : String) : PathText Name :=
  match utf8 requested with
  | byte :: rest => if byte = separator then joinPath root rest else joinPath root (byte :: rest)
  | [] => joinPath root []

/-- The canonical form of a path, or its lexical one when it does not exist. -/
def canonicalOrNormal (os : Os Name) (path : PathText Name) (world : World Name) :
    PathText Name :=
  (canonicalize os path world).getD (normalizePath path)

/-- Resolve a requested path against the root. -/
def resolvePath (os : Os Name) (root : PathText Name) (requested : String)
    (world : World Name) : Outcome SshError (PathText Name) :=
  let canonical := canonicalOrNormal os (requestedPath root requested) world
  if startsWith canonical (canonicalOrNormal os root world) then .ok canonical
  else .err (.sftp "Access denied: path outside root")

/-- Whether the bytes start with a character, and the number of bytes to take. -/
def utf8Step : Bytes → Bool × Nat
  | [] => (true, 0)
  | a :: rest =>
      let continuation := fun (b : UInt8) => 0x80 ≤ b && b ≤ 0xBF
      let tail := fun (i : Nat) => continuation (rest.getD i 0)
      let second := rest.getD 0 0
      if a ≤ 0x7F then (true, 1)
      else if 0xC2 ≤ a && a ≤ 0xDF then (tail 0, if tail 0 then 2 else 1)
      else if 0xE0 ≤ a && a ≤ 0xEF then
        let low := if a = 0xE0 then 0xA0 else 0x80
        let high := if a = 0xED then 0x9F else 0xBF
        if !(low ≤ second && second ≤ high) then (false, 1)
        else if !tail 1 then (false, 2)
        else (true, 3)
      else if 0xF0 ≤ a && a ≤ 0xF4 then
        let low := if a = 0xF0 then 0x90 else 0x80
        let high := if a = 0xF4 then 0x8F else 0xBF
        if !(low ≤ second && second ≤ high) then (false, 1)
        else if !tail 1 then (false, 2)
        else if !tail 2 then (false, 3)
        else (true, 4)
      else (false, 1)

/-- Text with a replacement character for each invalid sequence. The first
argument bounds the remaining sequences. -/
def lossyLoop : Nat → Bytes → String
  | 0, _ => ""
  | _, [] => ""
  | rounds + 1, bytes =>
      let taken := utf8Step bytes
      let text := if taken.1 then (fromUtf8 (bytes.take taken.2)).getD "" else "\uFFFD"
      text ++ lossyLoop rounds (bytes.drop taken.2)

/-- `String::from_utf8_lossy`. -/
def fromUtf8Lossy (bytes : Bytes) : String :=
  match fromUtf8 bytes with
  | some text => text
  | none => lossyLoop bytes.length bytes

end SwiftSsh.SftpPaths
