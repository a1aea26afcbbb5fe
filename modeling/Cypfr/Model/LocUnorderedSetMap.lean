import Cypfr.ToMathlib.UnorderedSet
import Mathlib.Data.List.AList

/-! # Maps from keys to sets

`utils/LocUnorderedSetMap.h`: a map whose values are sets, edited by several keys or values at once. The
helpers report which keys or values came or went through set pointers; here they return those sets.

Two of them read an iterator that an `erase` has just invalidated: `removeAndReturnInterset` advances it
and `trimOrRemove` takes the key from it. The model goes on with the next element and takes the key that
was erased.
-/

namespace Cypfr.LocUtil

variable {α : Type*} [DecidableEq α]

/-- A round of `trimSet`. -/
def trimVal (sets : UnorderedSet α × UnorderedSet α) (val : α) : UnorderedSet α × UnorderedSet α :=
  if val ∈ sets.1 then (sets.1.erase val, sets.2.insert val) else sets

/-- `trimSet`: what is left of `fromSet`, and `goneVals` with the values that were removed. -/
def trimSet (fromSet rVals goneVals : UnorderedSet α) : UnorderedSet α × UnorderedSet α :=
  rVals.elems.foldl trimVal (fromSet, goneVals)

/-- A round of `removeAndReturnInterset`, on the common elements and the two sets. -/
def takeCommon (sets : UnorderedSet α × UnorderedSet α × UnorderedSet α) (b : α) :
    UnorderedSet α × UnorderedSet α × UnorderedSet α :=
  if b ∈ sets.2.1 then (sets.1.insert b, sets.2.1.erase b, sets.2.2.erase b) else sets

/-- `removeAndReturnInterset`: the common elements, and what is left of the two sets. -/
def removeAndReturnInterset (s1 s2 : UnorderedSet α) : UnorderedSet α × UnorderedSet α × UnorderedSet α :=
  s2.elems.foldl takeCommon (.empty, s1, s2)

/-- A map to sets. -/
structure LocUnorderedSetMap (KEY VAL : Type*) where
  mMap : AList fun _ : KEY => UnorderedSet VAL

namespace LocUnorderedSetMap

variable {KEY VAL : Type*}

def empty : LocUnorderedSetMap KEY VAL := ⟨∅⟩

/-- `getKeys`. -/
def getKeys (m : LocUnorderedSetMap KEY VAL) : UnorderedSet KEY := ⟨m.mMap.keys, m.mMap.keys_nodup⟩

variable [DecidableEq KEY]

/-- `getValSetPtr`: the set of a key that is there. -/
def getValSetPtr (m : LocUnorderedSetMap KEY VAL) (key : KEY) : Option (UnorderedSet VAL) := m.mMap.lookup key

/-- `getValSet`: the set of a key, empty when the key is not there. -/
def getValSet (m : LocUnorderedSetMap KEY VAL) (key : KEY) : UnorderedSet VAL := (m.getValSetPtr key).getD .empty

/-- Make a set the entry of a key. -/
def put (m : LocUnorderedSetMap KEY VAL) (key : KEY) (vals : UnorderedSet VAL) : LocUnorderedSetMap KEY VAL :=
  ⟨m.mMap.insert key vals⟩

/-- `remove`. -/
def remove (m : LocUnorderedSetMap KEY VAL) (key : KEY) : LocUnorderedSetMap KEY VAL := ⟨m.mMap.erase key⟩

/-- A map beside the keys and the values that are gone from it. -/
structure Trimmed (KEY VAL : Type*) where
  map : LocUnorderedSetMap KEY VAL
  goneKeys : UnorderedSet KEY
  goneVals : UnorderedSet VAL

variable [DecidableEq VAL]

/-- `trimOrRemove` on the entry of one key, if there is one. -/
def trimEntry (rVals : UnorderedSet VAL) (t : Trimmed KEY VAL) (key : KEY) : Trimmed KEY VAL :=
  match t.map.getValSetPtr key with
  | none => t
  | some vals =>
    let trimmed := trimSet vals rVals t.goneVals
    if trimmed.1.isEmpty then
      { map := t.map.remove key, goneKeys := t.goneKeys.insert key, goneVals := trimmed.2 }
    else { t with map := t.map.put key trimmed.1, goneVals := trimmed.2 }

/-- `trimOrRemove` on the entries of several keys. -/
def trimOrRemove (m : LocUnorderedSetMap KEY VAL) (keys : UnorderedSet KEY) (rVals : UnorderedSet VAL) :
    Trimmed KEY VAL :=
  keys.elems.foldl (trimEntry rVals) { map := m, goneKeys := .empty, goneVals := .empty }

/-- `add` to the entry of one key; true when the entry is new. -/
def add (m : LocUnorderedSetMap KEY VAL) (key : KEY) (newVals : UnorderedSet VAL) : Bool × LocUnorderedSetMap KEY VAL :=
  if newVals.isEmpty then (false, m)
  else
    match m.getValSetPtr key with
    | some vals => (false, m.put key (vals.insertAll newVals.elems))
    | none => (true, m.put key newVals)

/-- A round of `add` for several keys. -/
def addKey (newVals : UnorderedSet VAL) (acc : LocUnorderedSetMap KEY VAL × UnorderedSet KEY) (key : KEY) :
    LocUnorderedSetMap KEY VAL × UnorderedSet KEY :=
  let added := add acc.1 key newVals
  (added.2, if added.1 then acc.2.insert key else acc.2)

/-- `add` to the entries of several keys, with the keys of the new entries. -/
def addAll (m : LocUnorderedSetMap KEY VAL) (keys : UnorderedSet KEY) (newVals : UnorderedSet VAL) :
    LocUnorderedSetMap KEY VAL × UnorderedSet KEY :=
  keys.elems.foldl (addKey newVals) (m, .empty)

/-- `update`: the values it returns, the map, and what is left of `newVals`. -/
def update (m : LocUnorderedSetMap KEY VAL) (key : KEY) (newVals : UnorderedSet VAL) :
    UnorderedSet VAL × LocUnorderedSetMap KEY VAL × UnorderedSet VAL :=
  if newVals.isEmpty then (.empty, m.remove key, newVals)
  else
    let interset := removeAndReturnInterset (m.getValSet key) newVals
    (interset.1, m.put key newVals, interset.2.2)

end LocUnorderedSetMap

end Cypfr.LocUtil
