import Switchboard.Error

/-!
Two caches that stand beside the tables and know nothing of them. The channel cache remembers the
last thing seen on a channel. The thing cache remembers which thing has a key and which role a
member has in a group; a role is kept under the group and the member joined by a colon.
-/
namespace Switchboard

/-- A text for every name that has one; a later text takes the place of an earlier one. -/
structure Lookup where
  rows : List (String × String) := []
  deriving DecidableEq, Repr

namespace Lookup

def get? (lookup : Lookup) (name : String) : Option String :=
  (lookup.rows.find? fun row => row.1 == name).map (·.2)

def erase (lookup : Lookup) (name : String) : Lookup :=
  ⟨lookup.rows.filter fun row => row.1 != name⟩

def set (lookup : Lookup) (name text : String) : Lookup :=
  ⟨(name, text) :: (lookup.erase name).rows⟩

def eraseText (lookup : Lookup) (text : String) : Lookup :=
  ⟨lookup.rows.filter fun row => row.2 != text⟩

end Lookup

structure ChannelCache where
  seen : Lookup := {}
  deriving DecidableEq, Repr

namespace ChannelCache

def connect (cache : ChannelCache) (channel thing : String) : ChannelCache :=
  ⟨cache.seen.set channel thing⟩

def remove (cache : ChannelCache) (channel : String) : ChannelCache := ⟨cache.seen.erase channel⟩

def disconnect (cache : ChannelCache) (channel _thing : String) : ChannelCache :=
  cache.remove channel

def hasThing (cache : ChannelCache) (channel thing : String) : Bool :=
  cache.seen.get? channel == some thing

end ChannelCache

structure ThingCache where
  ids : Lookup := {}
  roles : Lookup := {}
  deriving DecidableEq, Repr

def orNotFound : Option String → Except Error String
  | some text => .ok text
  | none => .error .notFound

namespace ThingCache

def roleName (group member : String) : String := group ++ ":" ++ member

def save (cache : ThingCache) (key id : String) : ThingCache :=
  { cache with ids := cache.ids.set key id }

def remove (cache : ThingCache) (id : String) : ThingCache :=
  { cache with ids := cache.ids.eraseText id }

def id (cache : ThingCache) (key : String) : Except Error String := orNotFound (cache.ids.get? key)

def saveRole (cache : ThingCache) (group member role : String) : ThingCache :=
  { cache with roles := cache.roles.set (roleName group member) role }

def removeRole (cache : ThingCache) (group member : String) : ThingCache :=
  { cache with roles := cache.roles.erase (roleName group member) }

def role (cache : ThingCache) (group member : String) : Except Error String :=
  orNotFound (cache.roles.get? (roleName group member))

end ThingCache

inductive ChannelCacheStep where
  | connect (channel thing : String)
  | disconnect (channel thing : String)
  | remove (channel : String)

def ChannelCache.perform (cache : ChannelCache) : ChannelCacheStep → ChannelCache
  | .connect channel thing => cache.connect channel thing
  | .disconnect channel thing => cache.disconnect channel thing
  | .remove channel => cache.remove channel

inductive ThingCacheStep where
  | save (key id : String)
  | remove (id : String)
  | saveRole (group member role : String)
  | removeRole (group member : String)

def ThingCache.perform (cache : ThingCache) : ThingCacheStep → ThingCache
  | .save key id => cache.save key id
  | .remove id => cache.remove id
  | .saveRole group member role => cache.saveRole group member role
  | .removeRole group member => cache.removeRole group member

end Switchboard
