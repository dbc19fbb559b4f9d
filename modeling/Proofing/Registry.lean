import Proofing.Fault
import Proofing.Profile.Status
/-
  Proofing — the registry of profiles.

  Profiles are written in transactions.  A transaction collects rows
  (`Registry.create`, `Registry.activate`); `Registry.commit` writes all of them
  or none, and a transaction that is dropped leaves no trace but a number that is
  not used again.

  No two rows have the same idempotency key: a key is looked for when a profile
  is created, among the rows and in the transaction, and once more among the rows
  when the transaction is committed, since another one may have written in
  between.
-/
namespace Proofing

/-- The profiles that are kept, and the clock by which they are dated. -/
structure Registry where
  /-- By their numbers in ascending order, one for each number. -/
  rows : List Profile
  /-- The number of the next profile. -/
  nextId : UInt64
  now : Timestamp
  /-- Creating a profile fails. -/
  failCreates : Bool
  /-- Committing a transaction fails. -/
  failCommits : Bool

/-- Rows that are not written yet. -/
structure Transaction where
  pending : List Profile

namespace Transaction

/-- No rows. -/
def empty : Transaction := ⟨[]⟩

/-- The rows with a row in the place of the one with its number, or behind all of them. -/
def replace (p : Profile) : List Profile → List Profile
  | [] => [p]
  | q :: rest => if q.id = p.id then p :: rest else q :: replace p rest

/-- Takes a profile without its personal key. -/
def stage (t : Transaction) (p : Profile) : Transaction :=
  ⟨replace p.withoutKey t.pending⟩

end Transaction

namespace Registry

/-- An empty registry at a point in time. -/
def empty (now : Timestamp) : Registry where
  rows := []
  nextId := 1
  now := now
  failCreates := false
  failCommits := false

/-- The clock of a registry that was given none. -/
def defaultNow : Timestamp := ⟨1700000000⟩

/-- The profile with a number. -/
def find? (r : Registry) (id : ProfileId) : Option Profile :=
  r.rows.find? (·.id == id)

/-- The profiles of a user. -/
def ofUser (r : Registry) (user : UserId) : List Profile :=
  r.rows.filter (·.user == user)

/-- Some row among these has the key. -/
def taken (key : IdempotencyKey) (rows : List Profile) : Bool :=
  rows.any (·.key == key)

/-- Creates an inactive profile in a transaction. -/
def create (r : Registry) (t : Transaction) (d : Draft) :
    Except StoreFault (Profile × Registry × Transaction) :=
  if r.failCreates then .error (.backend "injected create failure")
  else if taken d.key r.rows || taken d.key t.pending then .error (.duplicate d.key.text)
  else
    let p := Profile.ofDraft ⟨r.nextId⟩ d r.now
    .ok (p, { r with nextId := r.nextId + 1 }, t.stage p)

/-- Activates a profile in a transaction unless something holds it back. -/
def activate (r : Registry) (t : Transaction) (p : Profile) : Activation × Profile × Transaction :=
  match p.hold? with
  | some h => (.blocked h, p, t)
  | none =>
    let p := { p with active := true, activatedAt := some r.now }
    (.activated, p, t.stage p)

/-- The rows with a row at the place of its number. -/
def place (p : Profile) : List Profile → List Profile
  | [] => [p]
  | q :: rest =>
    if q.id = p.id then p :: rest
    else if p.id.number < q.id.number then p :: q :: rest
    else q :: place p rest

/-- Another row has the key of this one. -/
def clashes (r : Registry) (p : Profile) : Bool :=
  r.rows.any fun q => q.id != p.id && q.key == p.key

/-- Writes the rows of a transaction. -/
def commit (r : Registry) (t : Transaction) : Except StoreFault Registry :=
  if r.failCommits then .error (.backend "injected commit failure")
  else
    match t.pending.find? r.clashes with
    | some p => .error (.duplicate p.key.text)
    | none => .ok { r with rows := t.pending.foldl (fun rows p => place p rows) r.rows }

end Registry

end Proofing
