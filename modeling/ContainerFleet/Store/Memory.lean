import ContainerFleet.Store.Call

/-!
The store of detected updates in memory. Its records are gone when the program ends.
-/

namespace ContainerFleet

structure MemoryStore where
  /-- The records by host and image. -/
  records : Map (String × String) ImageUpdate
deriving DecidableEq, Repr

namespace MemoryStore

def empty : MemoryStore := ⟨[]⟩

def size (s : MemoryStore) : Nat :=
  s.records.length

def save (s : MemoryStore) (u : ImageUpdate) : MemoryStore :=
  ⟨s.records.insert (u.host, u.imageId) u⟩

def delete (s : MemoryStore) (host : String) (imageIds : List String) : MemoryStore :=
  ⟨imageIds.foldl (fun records id => records.erase (host, id)) s.records⟩

def find (s : MemoryStore) (host : String) (imageIds : List String) : Map String ImageUpdate :=
  Map.ofEntries (imageIds.filterMap fun id => (s.records.get? (host, id)).map (id, ·))

/-- Carries out one call; none fails. -/
def handle (call : StoreCall) (s : MemoryStore) : call.Reply × MemoryStore :=
  match call with
  | .save u => (.ok (), s.save u)
  | .delete host ids => (.ok (), s.delete host ids)
  | .find host ids => (.ok (s.find host ids), s)

end MemoryStore

end ContainerFleet
