import ContainerFleet.Store.File
import ContainerFleet.Store.Memory

/-!
The store of detected updates, in memory or in a file.
-/

namespace ContainerFleet

inductive AnyStore where
  | memory (records : MemoryStore)
  | file (store : FileStore) (disk : Disk)
deriving Repr

namespace AnyStore

/-- Carries out one call. -/
def handle (call : StoreCall) (s : AnyStore) : call.Reply × AnyStore :=
  match s with
  | .memory records =>
    let (reply, records) := MemoryStore.handle call records
    (reply, .memory records)
  | .file store disk =>
    let (reply, disk) := (store.perform call).run Disk.handle disk
    (reply, .file store disk)

/-- All records, as far as they can be read. -/
def records : AnyStore → List ImageUpdate
  | .memory s => s.records.map Prod.snd
  | .file store disk =>
    match (store.readAll.run Disk.handle disk).1 with
    | .ok records => records
    | .error _ => []

end AnyStore

end ContainerFleet
