import BearerAuth.Base64
import BearerAuth.Json.Reader
import BearerAuth.Json.Shape
import BearerAuth.Key.Basic
import BearerAuth.Network.Http

/-!
# Sets of keys

A provider publishes its keys in one document.  A key that is meant for encryption or does not make
sense is passed over, and a document without any other key is refused.  A `RemoteKeySet` holds the
keys of the last good document in the order of that document.

Refreshes run beside it, each as a `Task` that asks for the document from time to time and puts its
keys in place of those that are held, always as a whole.  The set itself has only the handle of the
refresh that was started last.  It knows no other way to stop a task than to abort it by its handle.
-/

namespace BearerAuth.Oidc

open Json (Source)

/-- A key as published. -/
structure KeyRecord where
  /-- The kind of key. -/
  kind : String
  /-- Its identifier. -/
  keyId : Option String := none
  /-- The algorithm it is for. -/
  algorithm : Option String := none
  /-- What it is used for. -/
  use : Option String := none
  /-- The modulus of an RSA key. -/
  n : Option String := none
  /-- The exponent of an RSA key. -/
  e : Option String := none
  /-- The curve of an elliptic curve key. -/
  curve : Option String := none
  /-- First coordinate of an elliptic curve key. -/
  x : Option String := none
  /-- Second coordinate of an elliptic curve key. -/
  y : Option String := none
  deriving DecidableEq, Repr

namespace KeyRecord

/-- The members of a published key in their order. -/
def memberNames : List String := ["kty", "kid", "alg", "use", "n", "e", "crv", "x", "y"]

/-- The text of a member that may be absent or `null`. -/
def textOr? (member : Option Source) : Option (Option String) :=
  match member with
  | none => some none
  | some s => s.textOrNull?

/-- The key of its members. -/
def ofMembers? (member : String → Option (Option Source)) : Option KeyRecord := do
  return {
    kind := ← (← member "kty").bind Source.text?
    keyId := ← textOr? (← member "kid")
    algorithm := ← textOr? (← member "alg")
    use := ← textOr? (← member "use")
    n := ← textOr? (← member "n")
    e := ← textOr? (← member "e")
    curve := ← textOr? (← member "crv")
    x := ← textOr? (← member "x")
    y := ← textOr? (← member "y") }

/-- The key of a part of a document: an object, of which other members do not count, or the list of
all members in their order. -/
def ofSource? : Source → Option KeyRecord
  | .object members => do
    let members ← Source.named? members
    ofMembers? fun name ↦ Source.unique? members name
  | .array items =>
    if items.length = memberNames.length then
      ofMembers? fun name ↦ some ((memberNames.zip items).lookup name)
    else none
  | _ => none

/-- The bytes of a component. -/
def component? (text : Option String) : Option (List UInt8) :=
  text.bind fun s ↦ Base64.decode? .url s.toList

/-- The key that a record stands for, unless it makes no sense. -/
def key? (r : KeyRecord) : Option VerifyingKey :=
  if r.kind = "RSA" then do
    let n ← component? r.n
    let e ← component? r.e
    return .rsa ⟨Sha2.natOfBytes n, Sha2.natOfBytes e⟩
  else if r.kind = "EC" then do
    let x ← component? r.x
    let y ← component? r.y
    return .ec (0x04 :: x ++ y)
  else none

/-- The key of a record that is not meant for encryption, with its identifier. -/
def usable? (r : KeyRecord) : Option (Option String × VerifyingKey) :=
  if r.use = some "enc" then none else r.key?.map (r.keyId, ·)

end KeyRecord

/-- The keys of a document: an object with a list of keys, or a list with that list. -/
def keyRecords? : Source → Option (List KeyRecord)
  | .object members => do
    let members ← Source.named? members
    match ← Source.required? members "keys" with
    | .array items => items.mapM KeyRecord.ofSource?
    | _ => none
  | .array [.array items] => items.mapM KeyRecord.ofSource?
  | _ => none

/-- Why a set of keys could not be loaded. -/
inductive KeySetFault where
  /-- There was no good response. -/
  | fetch (detail : String)
  /-- The response is no document of keys. -/
  | parse (detail : String)
  /-- The document has no usable key. -/
  | noKeys
  deriving DecidableEq, Repr

/-- The message of a fault. -/
def KeySetFault.message : KeySetFault → String
  | fetch detail => "Failed to fetch JWKS: " ++ detail
  | parse detail => "Failed to parse JWKS: " ++ detail
  | noKeys => "No valid keys found in JWKS"

/-- Keys with their identifiers, in the order of their document. -/
abbrev Keys : Type := List (Option String × VerifyingKey)

/-- The usable keys among some records. -/
def loadRecords (records : List KeyRecord) : Except KeySetFault Keys :=
  match records.filterMap KeyRecord.usable? with
  | [] => .error .noKeys
  | keys => .ok keys

/-- The usable keys of the document in a response. -/
def readKeys : Option Network.Response → Except KeySetFault Keys
  | none => .error (.fetch "the request was not sent")
  | some response =>
    if ¬(200 ≤ response.status ∧ response.status < 300) then
      .error (.fetch ("HTTP " ++ Network.statusText response.status ++ " from JWKS endpoint"))
    else
      match (response.body.bind Source.ofBytes?).bind keyRecords? with
      | none => .error (.parse "not a document of keys")
      | some records => loadRecords records

/-- The usable keys of the document at an address. -/
def loadKeys (names : Network.Names) (pages : Network.Pages) (uri : String) :
    Except KeySetFault Keys :=
  readKeys (Network.get? names pages uri)

/-- The key of an identifier: the first that has it.  Without an identifier only a lone key is
found. -/
def findKey? (keys : Keys) : Option String → Option VerifyingKey
  | some keyId => (keys.find? (·.1 = some keyId)).map Prod.snd
  | none =>
    match keys with
    | [(_, key)] => some key
    | _ => none

/-! ## Refreshes -/

/-- What a task is about. -/
inductive Phase where
  /-- It waits for the time of its next attempt. -/
  | waiting
  /-- It has sent a request, and this is what will come of it. -/
  | asking (response : Option Network.Response)
  /-- It has been aborted, with whatever it was about. -/
  | aborted
  deriving DecidableEq, Repr

/-- A refresh that was started. -/
structure Task where
  /-- The time between two attempts, in nanoseconds. -/
  interval : Nat
  /-- What it is about. -/
  phase : Phase := .waiting
  deriving DecidableEq, Repr

namespace Task

/-- The task, told to stop. -/
def abort (t : Task) : Task := { t with phase := .aborted }

/-- The task with its next request sent, if it waits for that. -/
def ask (response : Option Network.Response) (t : Task) : Task :=
  match t.phase with
  | .waiting => { t with phase := .asking response }
  | .asking _ | .aborted => t

/-- What comes of the request that the task has sent, if it has. -/
def response? (t : Task) : Option (Option Network.Response) :=
  match t.phase with
  | .asking response => some response
  | .waiting | .aborted => none

/-- The task with its request answered. -/
def settle (t : Task) : Task :=
  match t.phase with
  | .asking _ => { t with phase := .waiting }
  | .waiting | .aborted => t

end Task

/-- A set of keys that is held for an address, with the tasks that refresh it. -/
structure RemoteKeySet where
  /-- Where the keys come from. -/
  uri : String
  /-- The keys of the last good document. -/
  keys : Keys
  /-- The handle of the refresh that is installed: which of the tasks it is. -/
  slot : Option Nat := none
  /-- All tasks that were started, in their order. -/
  tasks : List Task := []
  deriving DecidableEq, Repr

namespace RemoteKeySet

/-- The default time between two attempts to refresh: two days, in nanoseconds. -/
def defaultInterval : Nat := 48 * 60 * 60 * 1000000000

/-- The longest time between two attempts to refresh: a year, in nanoseconds. -/
def maxInterval : Nat := 365 * 24 * 60 * 60 * 1000000000

/-- Loads a set of keys, without refreshing it. -/
def fetch (names : Network.Names) (pages : Network.Pages) (uri : String) :
    Except KeySetFault RemoteKeySet := do
  return { uri, keys := ← loadKeys names pages uri }

/-- The set with one task in another state. -/
def update (s : RemoteKeySet) (handle : Nat) (f : Task → Task) : RemoteKeySet :=
  { s with tasks := s.tasks.modify handle f }

/-- Takes the handle out of the slot and stops its task.  A set that is given up does so too. -/
def close (s : RemoteKeySet) : RemoteKeySet :=
  match s.slot with
  | some handle => { s with slot := none }.update handle .abort
  | none => s

/-- Starts another task. -/
def spawn (s : RemoteKeySet) (interval : Nat) : RemoteKeySet :=
  { s with tasks := s.tasks ++ [{ interval := min interval maxInterval }] }

/-- Starts a task and puts its handle into the slot.  The task of the handle that was there before
is stopped. -/
def startRefresh (s : RemoteKeySet) (interval : Nat) : RemoteKeySet :=
  let started := { s.spawn interval with slot := some s.tasks.length }
  match s.slot with
  | some previous => started.update previous .abort
  | none => started

/-- The time of a task has come: it asks for the document. -/
def ask (names : Network.Names) (pages : Network.Pages) (s : RemoteKeySet) (handle : Nat) :
    RemoteKeySet :=
  s.update handle (.ask (Network.get? names pages s.uri))

/-- A task is answered.  It waits for nothing between the answer and the keys, so this is one step.
A document without usable keys changes none. -/
def receive (s : RemoteKeySet) (handle : Nat) : RemoteKeySet :=
  match s.tasks[handle]?.bind Task.response? with
  | none => s
  | some response =>
    let s := s.update handle .settle
    match readKeys response with
    | .ok keys => { s with keys }
    | .error _ => s

/-- The key of an identifier. -/
def key? (s : RemoteKeySet) (keyId : Option String) : Option VerifyingKey := findKey? s.keys keyId

/-- The identifiers of the keys that have one. -/
def keyIds (s : RemoteKeySet) : List String := s.keys.filterMap Prod.fst

end RemoteKeySet

end BearerAuth.Oidc
