import ContainerFleet.Error
import ContainerFleet.Json.Record
import ContainerFleet.Map
import ContainerFleet.Timestamp.Text

/-!
The store of detected updates: at most one for each host and image.
-/

namespace ContainerFleet

/-- A newer image exists for an image on a host. -/
structure ImageUpdate where
  host : String
  imageId : String
  /-- The digest that the registry serves. -/
  updateRef : String
  checkedAt : Timestamp
deriving DecidableEq, Repr

namespace ImageUpdate

def ofJson? (v : Json) : Option ImageUpdate := do
  let r ← v.record? Json.strict ["host", "image_id", "update_ref", "checked_at"]
  return {
    host := ← r.required? "host" Json.str?
    imageId := ← r.required? "image_id" Json.str?
    updateRef := ← r.required? "update_ref" Json.str?
    checkedAt := ← r.required? "checked_at" fun v => v.str?.bind Timestamp.ofText?
  }

def toJson (u : ImageUpdate) : Json :=
  .obj [("host", .str u.host), ("image_id", .str u.imageId), ("update_ref", .str u.updateRef),
    ("checked_at", .str u.checkedAt.toText)]

end ImageUpdate

inductive StoreCall where
  /-- Puts a record in, in place of an older one for the same host and image. -/
  | save (update : ImageUpdate)
  | delete (host : String) (imageIds : List String)
  /-- The records of these images, by image. -/
  | find (host : String) (imageIds : List String)
deriving DecidableEq, Repr

namespace StoreCall

def Answer : StoreCall → Type
  | save _ => Unit
  | delete _ _ => Unit
  | find _ _ => Map String ImageUpdate

abbrev Reply (call : StoreCall) : Type :=
  Except StoreError call.Answer

/-- A call as one line of a log. -/
def toText : StoreCall → String
  | save u => "store.save:" ++ u.host ++ ":" ++ u.imageId ++ ":" ++ u.updateRef
  | delete host ids => "store.delete:" ++ host ++ ":" ++ String.intercalate "," ids
  | find host ids => "store.get:" ++ host ++ ":" ++ String.intercalate "," ids

end StoreCall

end ContainerFleet
