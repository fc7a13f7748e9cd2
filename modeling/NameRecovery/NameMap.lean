import NameRecovery.Address

/-!
# Names by address

A name map lists each address once, in the order in which the addresses were first given a
name.  A second name for an address replaces the first one where it stands.  Beside the list
an index keeps the addresses in descending order, so that the nearest address at or below a
given one is the first of the index that is not above it.

## Main definitions

* `NameMap`, `NameMap.insert`, `NameMap.getThenInsert?`, `NameMap.ofList` : maps and how they
  grow.
* `NameMap.get?`, `NameMap.addressOf?`, `NameMap.lookup?` : by address, by name, and by
  nearest address.
* `NameMap.toList` : the entries in order.
-/

namespace NameRecovery

/-- Names by address, in the order in which the addresses first came. -/
structure NameMap where
  entries : Array (Address × String) := #[]
  /-- The addresses of the entries in descending order. -/
  index : List Address := []
deriving DecidableEq

namespace NameMap

/-- Puts an address into a descending list, unless it is there already. -/
def insertDescending (a : Address) : List Address → List Address
  | [] => [a]
  | b :: rest =>
    if a < b then b :: insertDescending a rest
    else if a = b then b :: rest
    else a :: b :: rest

/-- The entries in order. -/
def toList (m : NameMap) : List (Address × String) :=
  m.entries.toList

/-- The number of entries. -/
def size (m : NameMap) : Nat :=
  m.entries.size

/-- Whether there is no entry. -/
def isEmpty (m : NameMap) : Bool :=
  m.entries.isEmpty

/-- The name at exactly this address. -/
def get? (m : NameMap) (a : Address) : Option String :=
  (m.entries.find? fun e => e.1 = a).map (·.2)

/-- The address of the first entry with this name. -/
def addressOf? (m : NameMap) (name : String) : Option Address :=
  (m.entries.find? fun e => e.2 = name).map (·.1)

/-- The entry with the greatest address that is not above `a`. -/
def lookup? (m : NameMap) (a : Address) : Option (Address × String) :=
  (m.index.find? fun b => b ≤ a).bind fun b => (m.get? b).map (b, ·)

/-- Names an address.  A new address goes to the end, a known one keeps its place. -/
def insert (m : NameMap) (a : Address) (name : String) : NameMap where
  entries :=
    if m.entries.any fun e => e.1 = a then
      m.entries.map fun e => if e.1 = a then (a, name) else e
    else m.entries.push (a, name)
  index := insertDescending a m.index

/-- Names an address and says which name it had before. -/
def getThenInsert? (m : NameMap) (a : Address) (name : String) : Option String × NameMap :=
  (m.get? a, m.insert a name)

/-- The map that results from naming addresses one after another. -/
def ofList (entries : List (Address × String)) : NameMap :=
  entries.foldl (fun m e => m.insert e.1 e.2) {}

/-- Whether two maps have the same entries, in whatever order. -/
def sameEntries (m n : NameMap) : Bool :=
  m.size == n.size && m.entries.all fun e => n.get? e.1 == some e.2

/-- Two maps are equal when both their entries and their indices are the same. -/
instance : BEq NameMap := ⟨fun m n => m.sameEntries n && m.index == n.index⟩

end NameMap

end NameRecovery
