import Proofing.Inspector.Command
/-
  Proofing — texts and folders held in memory.

  A `Disk` stands for the files and the standard input of a run.  A path is
  followed through its folders segment by segment (`Disk.locate`), and
  `Disk.host` makes a run of the commands a pure function of the disk.
-/
namespace Proofing.Inspector

/-- The names that lead to a text or a folder, the innermost one first. -/
abbrev Place := List String

/-- Texts and folders. -/
structure Disk where
  /-- The folders; those around them and around the texts need not be among them. -/
  folders : List Place
  texts : List (Place × String)
  /-- The folder in which a path starts that has no slash in front. -/
  current : Place
  /-- The standard input. -/
  input : String

namespace Disk

/-- The text at a place. -/
def text? (d : Disk) (p : Place) : Option String :=
  d.texts.lookup p

/-- There is a folder at the place. -/
def isFolder (d : Disk) (p : Place) : Bool :=
  (d.current :: d.folders ++ d.texts.map fun t => t.1.tail).any p.isSuffixOf

/-- Where a segment of a path leads to from a place. -/
def step (d : Disk) (p : Place) (segment : List Char) : Except PathFault Place :=
  if !d.isFolder p then .error .notFolder
  else
    match segment with
    | [] | ['.'] => .ok p
    | ['.', '.'] => .ok p.tail
    | cs =>
      let name := String.ofList cs
      if segmentLimit < name.utf8ByteSize then .error .tooLong
      else if d.isFolder (name :: p) || (d.text? (name :: p)).isSome then .ok (name :: p)
      else .error .missing

/-- The place that a path leads to. -/
def locate (d : Disk) (path : String) : Except PathFault Place :=
  if pathLimit < path.utf8ByteSize then .error .tooLong
  else
    match path.toList with
    | [] => .error .missing
    | '/' :: rest => (segments rest).foldlM d.step []
    | cs => (segments cs).foldlM d.step d.current

/-- The text that a path leads to. -/
def read (d : Disk) (path : String) : Except PathFault String := do
  match d.text? (← d.locate path) with
  | some text => return text
  | none => throw .folder

/-- The disk with another text where a path leads to one. -/
def overwrite (d : Disk) (path text : String) : Except PathFault Disk := do
  let p ← d.locate path
  if (d.text? p).isNone then throw .folder
  return { d with texts := d.texts.map fun t => if t.1 = p then (p, text) else t }

/-- The disk as a host.  A run reads a text before it writes it, so no text is ever added. -/
def host : Host (StateM Disk) where
  readFile path := do return ((← get).read path).mapError PathFault.message
  readInput := do return .ok (← get).input
  writeFile path text := do
    match (← get).overwrite path text with
    | .ok d => set d; return .ok ()
    | .error e => return .error e.message

end Disk

end Proofing.Inspector
