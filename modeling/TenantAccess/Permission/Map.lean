import TenantAccess.Table

set_option autoImplicit false

namespace TenantAccess

structure PermissionMap where
  entries : List (String × List String)
  distinct : (Table.names entries).Nodup
  deriving DecidableEq, Repr

namespace PermissionMap

def empty : PermissionMap := ⟨[], List.nodup_nil⟩

instance : Inhabited PermissionMap := ⟨empty⟩

def ofEntries (entries : List (String × List String)) : PermissionMap :=
  ⟨Table.ofEntries entries, Table.nodup_names_ofEntries entries⟩

def lookup? (map : PermissionMap) (resource : String) : Option (List String) :=
  Table.lookup? resource map.entries

/-- The actions on a resource, none if the map does not name it. -/
def actions (map : PermissionMap) (resource : String) : List String :=
  (map.lookup? resource).getD []

def Grants (map : PermissionMap) (resource action : String) : Prop :=
  action ∈ map.actions resource

instance (map : PermissionMap) (resource action : String) :
    Decidable (map.Grants resource action) :=
  inferInstanceAs (Decidable (action ∈ map.actions resource))

def resources (map : PermissionMap) : List String := Table.names map.entries

def isEmpty (map : PermissionMap) : Bool := map.entries.isEmpty

def pairs (map : PermissionMap) : List (String × String) :=
  map.entries.flatMap fun entry => entry.2.map fun action => (entry.1, action)

def mapActions (f : String → List String → List String) (map : PermissionMap) : PermissionMap :=
  ⟨map.entries.map fun entry => (entry.1, f entry.1 entry.2), by
    rw [Table.names_map_values fun entry => f entry.1 entry.2]
    exact map.distinct⟩

/-- Each action once per resource, in order of first occurrence. -/
def normalize (map : PermissionMap) : PermissionMap := map.mapActions fun _ => List.eraseDups

def appendNew (held more : List String) : List String :=
  more.foldl (fun held action => if action ∈ held then held else held ++ [action]) held

/-- Adds actions to a resource, which joins the end of the map if it is new. -/
def add (map : PermissionMap) (resource : String) (more : List String) : PermissionMap :=
  ⟨Table.insert resource (appendNew (map.actions resource) more) map.entries,
    Table.nodup_names_insert resource _ map.entries map.distinct⟩

def union (map other : PermissionMap) : PermissionMap :=
  other.entries.foldl (fun joined entry => joined.add entry.1 entry.2) map

/-- The union of maps: per resource, each action once in order of first occurrence. -/
def merge (maps : List PermissionMap) : PermissionMap := maps.foldl union empty

/-- The requested pairs that the granted map does not hold, in order of request. -/
def missing (granted requested : PermissionMap) : List (String × String) :=
  requested.pairs.filter fun pair => !decide (granted.Grants pair.1 pair.2)

/-- Whether two maps give every resource the same actions, whatever the order of resources. -/
def sameMapping (map other : PermissionMap) : Bool :=
  map.entries.length == other.entries.length
    && map.entries.all fun entry => other.lookup? entry.1 == some entry.2

end PermissionMap

end TenantAccess
