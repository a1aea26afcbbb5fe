import Mathlib.Data.List.AList

/-! # The linked list

`gps/utils/linked_list.c`: elements of the heap that are linked in both directions, added at the head and removed at the
tail. A call that reads or writes an element that is not allocated faults, which is none here. The handle of a list is
that of `linked_list_init`.
-/

namespace Cypfr.LinkedList

/-- `linked_list_err_type`. -/
inductive LinkedListErrType
  | success
  | failureGeneral
  | invalidParameter
  | invalidHandle
  | unavailableResource
  | insufficientBuffer
  | empty
deriving DecidableEq

/-- `list_element`. -/
structure ListElement (Obj Dealloc : Type) where
  next : Option ℕ
  prev : Option ℕ
  dataPtr : Obj
  deallocFunc : Option Dealloc

/-- `list_state`, with the elements that are allocated. -/
structure ListState (Obj Dealloc : Type) where
  pHead : Option ℕ
  pTail : Option ℕ
  elements : AList fun _ : ℕ => ListElement Obj Dealloc

variable {Obj Dealloc : Type}

namespace ListElement

/-- The call of `dealloc_func`, if there is one. -/
def call (element : ListElement Obj Dealloc) : Option (Dealloc × Obj) :=
  element.deallocFunc.map fun dealloc => (dealloc, element.dataPtr)

end ListElement

namespace ListState

def setNext (l : ListState Obj Dealloc) (address : ℕ) (next : Option ℕ) : Option (ListState Obj Dealloc) :=
  (l.elements.lookup address).map fun element =>
    { l with elements := l.elements.insert address { element with next := next } }

def setPrev (l : ListState Obj Dealloc) (address : ℕ) (prev : Option ℕ) : Option (ListState Obj Dealloc) :=
  (l.elements.lookup address).map fun element =>
    { l with elements := l.elements.insert address { element with prev := prev } }

/-- The head, or the element before another, is made to lead on. -/
def leadOn (l : ListState Obj Dealloc) (prev next : Option ℕ) : Option (ListState Obj Dealloc) :=
  match prev with
  | none => some { l with pHead := next }
  | some prev => l.setNext prev next

/-- The tail, or the element after another, is made to lead back. -/
def leadBack (l : ListState Obj Dealloc) (next prev : Option ℕ) : Option (ListState Obj Dealloc) :=
  match next with
  | none => some { l with pTail := prev }
  | some next => l.setPrev next prev

def free (l : ListState Obj Dealloc) (address : ℕ) : ListState Obj Dealloc :=
  { l with elements := l.elements.erase address }

end ListState

/-- A `malloc`, which returns NULL or an element that is not allocated. -/
structure Malloc (Obj Dealloc : Type) where
  allocate : ListState Obj Dealloc → Option ℕ
  fresh : ∀ l address, allocate l = some address → l.elements.lookup address = none

/-- `linked_list_init`. -/
def linkedListInit : ListState Obj Dealloc := ⟨none, none, ∅⟩

/-- `linked_list_add`; `elem` is what `malloc` returns. -/
def linkedListAdd (l : ListState Obj Dealloc) (elem : Option ℕ) (dataObj : Option Obj) (dealloc : Option Dealloc) :
    Option (LinkedListErrType × ListState Obj Dealloc) :=
  match dataObj with
  | none => some (.invalidParameter, l)
  | some dataObj =>
    match elem with
    | none => some (.failureGeneral, l)
    | some elem => do
      let tmp := l.pHead
      let l := { l with
        pHead := some elem
        elements := l.elements.insert elem ⟨none, none, dataObj, dealloc⟩ }
      let l ← l.setNext elem tmp
      let l ← match tmp with
        | some tmp => l.setPrev tmp l.pHead
        | none => some { l with pTail := l.pHead }
      return (.success, l)

/-- `linked_list_remove`, with what it writes to `data_obj`. -/
def linkedListRemove (l : ListState Obj Dealloc) :
    Option (LinkedListErrType × Option Obj × ListState Obj Dealloc) :=
  match l.pTail with
  | none => some (.unavailableResource, none, l)
  | some tmp => do
    let removed ← l.elements.lookup tmp
    let l := { l with pTail := removed.prev }
    let l ← match l.pTail with
      | some tail => l.setNext tail none
      | none => some { l with pHead := l.pTail }
    let removed ← l.elements.lookup tmp
    return (.success, some removed.dataPtr, l.free tmp)

/-- `linked_list_empty`. -/
def linkedListEmpty (l : ListState Obj Dealloc) : Bool := l.pHead.isNone

theorem length_erase_lt {elements : AList fun _ : ℕ => ListElement Obj Dealloc} {head : ℕ}
    {element : ListElement Obj Dealloc} (there : elements.lookup head = some element) :
    (elements.erase head).keys.length < elements.keys.length := by
  have member : head ∈ elements.keys := AList.lookup_isSome.mp (by rw [there, Option.isSome_some])
  rw [AList.keys_erase, List.length_erase_of_mem member]
  exact Nat.sub_lt (List.length_pos_of_mem member) Nat.one_pos

/-- The loop of `linked_list_flush`, with its calls of `dealloc_func`. -/
def flushLoop (l : ListState Obj Dealloc) : Option (ListState Obj Dealloc × List (Dealloc × Obj)) :=
  match l.pHead with
  | none => some (l, [])
  | some head =>
    match _there : l.elements.lookup head with
    | none => none
    | some element =>
      (flushLoop { l.free head with pHead := element.next }).map fun later => (later.1, element.call.toList ++ later.2)
termination_by l.elements.keys.length
decreasing_by exact length_erase_lt _there

/-- `linked_list_flush`. -/
def linkedListFlush (l : ListState Obj Dealloc) :
    Option (LinkedListErrType × ListState Obj Dealloc × List (Dealloc × Obj)) :=
  (flushLoop l).map fun flushed => (.success, { flushed.1 with pTail := none }, flushed.2)

/-- The loop of `linked_list_search` up to the element that is found; after as many elements as there are it would go
on forever. -/
def searchLoop (l : ListState Obj Dealloc) (equal : Obj → Bool) : ℕ → Option ℕ → Option (Option ℕ)
  | _, none => some none
  | 0, some _ => none
  | rounds + 1, some tmp =>
    (l.elements.lookup tmp).bind fun element =>
      if equal element.dataPtr then some (some tmp) else searchLoop l equal rounds element.next

/-- The removal of `linked_list_search`; `copied` is whether there is a `data_p`. -/
def removeFound (l : ListState Obj Dealloc) (tmp : ℕ) (copied : Bool) :
    Option (ListState Obj Dealloc × List (Dealloc × Obj)) := do
  let element ← l.elements.lookup tmp
  let l ← l.leadOn element.prev element.next
  let element ← l.elements.lookup tmp
  let l ← l.leadBack element.next element.prev
  let element ← l.elements.lookup tmp
  return (l.free tmp, if copied then [] else element.call.toList)

/-- `linked_list_search`, with what it writes to `data_p` if there is one. -/
def linkedListSearch (l : ListState Obj Dealloc) (dataP : Bool) (equal : Option (Obj → Bool)) (rmIfFound : Bool) :
    Option (LinkedListErrType × Option Obj × ListState Obj Dealloc × List (Dealloc × Obj)) :=
  match equal with
  | none => some (.invalidHandle, none, l, [])
  | some equal =>
    match l.pTail with
    | none => some (.unavailableResource, none, l, [])
    | some _ => do
      match ← searchLoop l equal l.elements.keys.length l.pHead with
      | none => return (.success, none, l, [])
      | some tmp =>
        let found ← l.elements.lookup tmp
        let data := if dataP then some found.dataPtr else none
        let (l, calls) ← if rmIfFound then removeFound l tmp dataP else some (l, [])
        return (.success, data, l, calls)

end Cypfr.LinkedList
