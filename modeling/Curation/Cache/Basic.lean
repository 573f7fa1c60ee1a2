import Curation.Json.Basic

/-!
The cache of answers and claims. It keeps its entries on a server as long as that answers, and from
the server's first failure on in a table of its own. A claim is an entry that is only written where
no live one stands.

In a table of values that expire a key has at most one entry, and an entry is alive strictly before
its expiry. A look-up sees the last write to its own key and no other key's.
-/
namespace Curation

namespace Cache

structure Entry where
  expires : Number
  value : Json
  deriving Repr, Inhabited

/-- Whether an entry still counts at a time. -/
def Entry.isLive (entry : Entry) (now : Number) : Bool := now.lt entry.expires

abbrev Table := List (String × Entry)

namespace Table

def find? (key : String) (table : Table) : Option Entry := table.lookup key

def insert (key : String) (entry : Entry) : Table → Table
  | [] => [(key, entry)]
  | (other, old) :: rest =>
    if other = key then (other, entry) :: rest else (other, old) :: insert key entry rest

def erase (key : String) (table : Table) : Table := table.filter fun pair => pair.1 != key

/-- Drops what has expired. -/
def evict (now : Number) (table : Table) : Table := table.filter fun pair => pair.2.isLive now

/-- The live value under a key. -/
def live? (key : String) (now : Number) (table : Table) : Option Json :=
  match table.find? key with
  | some entry => if entry.isLive now then some entry.value else none
  | none => none

end Table

/-- The server with its entries, which are not dropped when they expire. -/
structure Server where
  entries : Table := []
  isDown : Bool := false
  deriving Repr, Inhabited

inductive Backend where
  | memory
  | server
  deriving DecidableEq, Repr, Inhabited

end Cache

structure Cache where
  backend : Cache.Backend := .memory
  server : Cache.Server := {}
  entries : Cache.Table := []
  deriving Repr, Inhabited

namespace Cache

/-- What stands in front of every key. -/
def keyStart : String := "modbot:"

def Backend.name : Backend → String
  | .memory => "memory"
  | .server => "redis"

/-- The cache as it goes on from a call: without the server if that has just failed. -/
def settled (cache : Cache) : Cache :=
  if cache.backend = .server && cache.server.isDown then { cache with backend := .memory }
  else cache

/-- The live value under a key. An expired one in the own table is dropped. -/
def get (key : String) (now : Number) (cache : Cache) : Option Json × Cache :=
  let key := keyStart ++ key
  let cache := cache.settled
  match cache.backend with
  | .server => (cache.server.entries.live? key now, cache)
  | .memory =>
    match cache.entries.find? key with
    | none => (none, cache)
    | some entry =>
      if entry.isLive now then (some entry.value, cache)
      else (none, { cache with entries := cache.entries.erase key })

/-- Writes a value, or only where no live one stands; tells whether it was written. -/
def write (key : String) (value : Json) (ttl now : Number) (onlyNew : Bool) (cache : Cache) :
    Bool × Cache :=
  let key := keyStart ++ key
  let entry : Entry := ⟨now.add ttl, value⟩
  let cache := cache.settled
  match cache.backend with
  | .server =>
    if onlyNew && (cache.server.entries.live? key now).isSome then (false, cache)
    else
      (true, { cache with
        server := { cache.server with entries := cache.server.entries.insert key entry } })
  | .memory =>
    let entries := cache.entries.evict now
    if onlyNew && (entries.live? key now).isSome then (false, { cache with entries })
    else (true, { cache with entries := entries.insert key entry })

def put (key : String) (value : Json) (ttl now : Number) (cache : Cache) : Cache :=
  (cache.write key value ttl now false).2

/-- The live value under a key; where there is none, a fresh one, which is kept unless there was a
fault in making it. Tells whether a fresh one was made. -/
def getOr {ε : Type} (key : String) (ttl now : Number) (fresh : Except ε Json) (cache : Cache) :
    (Bool × Except ε Json) × Cache :=
  match cache.get key now with
  | (some value, cache) => ((false, .ok value), cache)
  | (none, cache) =>
    match fresh with
    | .ok value => ((true, .ok value), cache.put key value ttl now)
    | .error fault => ((true, .error fault), cache)

/-- Marks a key as taken; false if somebody holds it already. -/
def claim (key : String) (ttl now : Number) (cache : Cache) : Bool × Cache :=
  cache.write key (.int 1) ttl now true

def release (key : String) (cache : Cache) : Cache :=
  let key := keyStart ++ key
  let cache := cache.settled
  match cache.backend with
  | .server =>
    { cache with server := { cache.server with entries := cache.server.entries.erase key } }
  | .memory => { cache with entries := cache.entries.erase key }

end Cache

end Curation
