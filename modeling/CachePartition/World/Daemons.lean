import CachePartition.Call
import CachePartition.TextSet

/-! Daemons held in memory, one at each address. They issue ids from one counter. -/
namespace CachePartition

/-- How a daemon answers a wish for a new entry. -/
inductive CreateBehaviour where
  | accept
  /-- Takes the entry but never lists it. -/
  | drop
  | reject
  deriving DecidableEq, Repr

structure Daemons where
  entries : TextMap (List Entry) := SortedMap.empty
  behaviour : TextMap CreateBehaviour := SortedMap.empty
  unreachable : TextSet := TextSet.empty
  reports : TextMap CacheReport := SortedMap.empty
  /-- The number of ids issued. -/
  issued : Nat := 0
  deriving DecidableEq, Repr

namespace Daemons

/-- The entries at an address. -/
def entriesAt (d : Daemons) (address : String) : List Entry := d.entries.getD address []

/-- The id issued next. -/
def nextId (d : Daemons) : String := Text.decimal (d.issued + 1)

/-- The class of service of an entry that a daemon has taken. -/
def classOf (uuid : String) : String := uuid ++ "-guarantee"

/-- Adds an entry under the next id. -/
def push (d : Daemons) (address : String) (e : Entry) : Daemons :=
  let stored := { e with id := d.nextId, status := "Successful", className := classOf e.uuid }
  { d with
    entries := d.entries.insert address (d.entriesAt address ++ [stored])
    issued := d.issued + 1 }

/-- Puts a bare entry of a workload at an address. -/
def insert (d : Daemons) (address uuid : String) : Daemons := d.push address { uuid }

/-- Changes the entries at an address that has any. -/
def mapAt (d : Daemons) (address : String) (f : List Entry → List Entry) : Daemons :=
  match d.entries.get? address with
  | some l => { d with entries := d.entries.insert address (f l) }
  | none => d

/-- Takes the entries of a workload away from an address. -/
def forget (d : Daemons) (address uuid : String) : Daemons :=
  d.mapAt address fun l => l.filter fun e => e.uuid ≠ uuid

def setBehaviour (d : Daemons) (address : String) (b : CreateBehaviour) : Daemons :=
  { d with behaviour := d.behaviour.insert address b }

def setUnreachable (d : Daemons) (address : String) (value : Bool) : Daemons :=
  { d with unreachable := if value then d.unreachable.insert address
      else d.unreachable.erase address }

def setReport (d : Daemons) (address : String) (r : CacheReport) : Daemons :=
  { d with reports := d.reports.insert address r }

/-- Gives the first entry with an id the settings of another. -/
def amend (id : String) (body : Entry) : List Entry → List Entry
  | [] => []
  | e :: rest =>
    if e.id = id then
      { e with
        coreIds := body.coreIds
        policy := body.policy
        allocation := body.allocation
        plugins := body.plugins } :: rest
    else e :: amend id body rest

/-- The answer of a daemon that is reached. -/
def serve (d : Daemons) : (c : DaemonCall) → c.Answer × Daemons
  | .list address => (.ok (d.entriesAt address), d)
  | .create address body =>
    match d.behaviour.getD address .accept with
    | .accept => (.ok "Success: 201", d.push address body)
    | .drop => (.ok "Success: 200", d)
    | .reject => (.error (.rejected 400 "not enough cache ways"), d)
  | .update address id body =>
    if (d.entriesAt address).any fun e => e.id = id then
      (.ok "Success: 200", d.mapAt address (amend id body))
    else (.error (.rejected 404 ("workload " ++ id ++ " not found")), d)
  | .delete address id => (.ok (), d.mapAt address fun l => l.filter fun e => e.id ≠ id)
  | .cacheReport address =>
    match d.reports.get? address with
    | some r => (.ok r, d)
    | none => (.error .decode, d)

def answer (d : Daemons) (c : DaemonCall) : c.Answer × Daemons :=
  if d.unreachable.contains c.address then (c.failed (.transport c.address), d) else d.serve c

end Daemons

end CachePartition
