/-
  Proofing — paths.

  A path is read segment by segment, and a `PathFault` says what stops it on its
  way to a text.  A path of a lone hyphen stands for the standard input.
-/
namespace Proofing.Inspector

/-- The segments of a path between slashes. -/
def segments : List Char → List (List Char)
  | [] => [[]]
  | '/' :: rest => [] :: segments rest
  | c :: rest =>
    match segments rest with
    | s :: ss => (c :: s) :: ss
    | [] => [[c]]

/-- The path is a lone hyphen, which stands for the standard input. -/
def isInput (path : String) : Bool :=
  match segments path.toList with
  | ['-'] :: rest => rest.all fun s => s == [] || s == ['.']
  | _ => false

/-- The greatest number of octets in a segment. -/
def segmentLimit : Nat := 255

/-- The greatest number of octets in a path. -/
def pathLimit : Nat := 4095

/-- Why a path leads to no text. -/
inductive PathFault where
  /-- There is nothing of that name. -/
  | missing
  /-- The path goes on after a text. -/
  | notFolder
  /-- The path leads to a folder. -/
  | folder
  /-- The path, or a name in it, has more octets than it may have. -/
  | tooLong
  deriving DecidableEq, Repr

/-- The text of a fault. -/
def PathFault.message : PathFault → String
  | .missing => "No such file or directory (os error 2)"
  | .notFolder => "Not a directory (os error 20)"
  | .folder => "Is a directory (os error 21)"
  | .tooLong => "File name too long (os error 36)"

end Proofing.Inspector
