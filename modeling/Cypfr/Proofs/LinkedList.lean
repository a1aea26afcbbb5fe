import Cypfr.Model.LinkedList
import Cypfr.ToMathlib.LinkedCells

/-! # The links of the linked list

The list is linked in both directions after each of its operations: an element is put in front, the last is taken out,
one that is found is taken out anywhere, and a flush takes out all. None of them faults.
-/

namespace Cypfr.LinkedList

open CellView

variable {Obj Dealloc : Type}

/-- How the links and the data of an element are read. -/
def view : CellView (ListElement Obj Dealloc) (Obj × Option Dealloc) where
  next := ListElement.next
  prev := ListElement.prev
  data element := (element.dataPtr, element.deallocFunc)

namespace ListState

/-- The elements are those of a chain, the newest first. -/
def Holds (l : ListState Obj Dealloc) (chain : List (ℕ × Obj × Option Dealloc)) : Prop :=
  view.Linked (fun address => l.elements.lookup address) l.pHead l.pTail chain

/-- The elements from the head on are those of a chain, and may not be all. -/
structure Walks (l : ListState Obj Dealloc) (chain : List (ℕ × Obj × Option Dealloc)) : Prop where
  head : l.pHead = firstOf chain
  apart : (chain.map Prod.fst).Nodup
  forward : view.Forward (fun address => l.elements.lookup address) chain

/-- The messages from the head on. -/
def contents (l : ListState Obj Dealloc) : List (Obj × Option Dealloc) :=
  match l.pHead with
  | none => []
  | some head =>
    match _there : l.elements.lookup head with
    | none => []
    | some element => (element.dataPtr, element.deallocFunc) :: contents { l.free head with pHead := element.next }
termination_by l.elements.keys.length
decreasing_by exact length_erase_lt _there

end ListState

variable {l l' : ListState Obj Dealloc} {chain front back : List (ℕ × Obj × Option Dealloc)} {address other : ℕ}
  {link : Option ℕ} {obj : Obj} {dealloc : Option Dealloc} {element : ListElement Obj Dealloc}

/-- The call that a message is freed with, if there is one. -/
def deallocCall (message : Obj × Option Dealloc) : Option (Dealloc × Obj) :=
  message.2.map fun dealloc => (dealloc, message.1)

theorem linkedListInit_holds : (linkedListInit : ListState Obj Dealloc).Holds [] := linked_nil

theorem linkedListAdd_of_none (head : l.pHead = none) : linkedListAdd l (some address) (some obj) dealloc =
    some (.success, ⟨some address, some address, l.elements.insert address ⟨none, none, obj, dealloc⟩⟩) := by
  simp only [linkedListAdd, ListState.setNext, head, AList.lookup_insert, Option.map_some, AList.insert_insert,
    Option.bind_eq_bind, Option.bind_some]
  rfl

theorem linkedListAdd_of_some {old : ℕ} (head : l.pHead = some old) (there : l.elements.lookup old = some element)
    (other : old ≠ address) : linkedListAdd l (some address) (some obj) dealloc =
    some (.success, ⟨some address, l.pTail, (l.elements.insert address ⟨some old, none, obj, dealloc⟩).insert old
      { element with prev := some address }⟩) := by
  simp only [linkedListAdd, ListState.setNext, ListState.setPrev, head, AList.lookup_insert,
    AList.lookup_insert_ne other, there, Option.map_some, AList.insert_insert, Option.bind_eq_bind, Option.bind_some]
  rfl

/-- An element is put in front. -/
theorem linkedListAdd_holds (obj : Obj) (dealloc : Option Dealloc) (holds : l.Holds chain)
    (fresh : l.elements.lookup address = none) :
    ∃ l', linkedListAdd l (some address) (some obj) dealloc = some (.success, l') ∧
      l'.Holds ((address, obj, dealloc) :: chain) := by
  cases head : l.pHead with
  | none =>
    refine ⟨_, linkedListAdd_of_none head, ?_⟩
    have linked := CellView.Linked.cons holds
      (fun other => (l.elements.insert address ⟨none, none, obj, dealloc⟩).lookup other)
      ⟨none, none, obj, dealloc⟩ fresh (AList.lookup_insert _) rfl head.symm rfl
    rw [if_pos head] at linked
    refine linked (fun other c different there => ⟨c, ?_, rfl, rfl, ?_⟩) fun other different missing => ?_
    · rw [AList.lookup_insert_ne different, there]
    · rw [head, if_neg (Option.some_ne_none other).symm]
    · rw [AList.lookup_insert_ne different, missing]
  | some old =>
    have holds' := holds
    rw [ListState.Holds, head] at holds'
    obtain ⟨element, there, -⟩ := holds'.prev_head
    have different : old ≠ address := by
      rintro rfl
      rw [fresh] at there
      cases there
    refine ⟨_, linkedListAdd_of_some head there different, ?_⟩
    have made : ((l.elements.insert address ⟨some old, none, obj, dealloc⟩).insert old
        { element with prev := some address }).lookup address = some ⟨some old, none, obj, dealloc⟩ := by
      rw [AList.lookup_insert_ne different.symm, AList.lookup_insert]
    have linked := CellView.Linked.cons holds
      (fun other => ((l.elements.insert address ⟨some old, none, obj, dealloc⟩).insert old
        { element with prev := some address }).lookup other)
      ⟨some old, none, obj, dealloc⟩ fresh made rfl head.symm rfl
    rw [if_neg (by rw [head]; exact Option.some_ne_none old)] at linked
    refine linked (fun other c away present => ?_) fun other away missing => ?_
    · by_cases same : other = old
      · subst same
        obtain rfl := Option.some_inj.mp (there.symm.trans present)
        exact ⟨_, AList.lookup_insert _, rfl, rfl, by rw [if_pos head]; rfl⟩
      · refine ⟨c, by rw [AList.lookup_insert_ne same, AList.lookup_insert_ne away, present], rfl, rfl, ?_⟩
        rw [head, if_neg fun equal => same (Option.some_inj.mp equal).symm]
    · have same : other ≠ old := by
        rintro rfl
        rw [there] at missing
        cases missing
      rw [AList.lookup_insert_ne same, AList.lookup_insert_ne away, missing]

/-- A list holds the others when an element is taken out and its neighbours are linked to each other. -/
theorem ListState.Holds.unlink {message : Obj × Option Dealloc} (holds : l.Holds (front ++ (address, message) :: back))
    (l' : ListState Obj Dealloc)
    (first : l'.pHead = firstOf (front ++ back)) (last : l'.pTail = lastOf (front ++ back))
    (gone : l'.elements.lookup address = none)
    (rest : ∀ other, other ≠ address → l'.elements.lookup other = (l.elements.lookup other).map fun element =>
      { element with
        next := if lastOf front = some other then firstOf back else element.next
        prev := if firstOf back = some other then lastOf front else element.prev }) :
    l'.Holds (front ++ back) := by
  rw [ListState.Holds, first, last]
  refine CellView.Linked.remove holds gone (fun other element different there => ?_) fun other missing => ?_
  · exact ⟨_, (rest other different).trans (congrArg (Option.map _) there), rfl, rfl, rfl⟩
  · by_cases same : other = address
    · rw [same, gone]
    · rw [rest other same, missing, Option.map_none]

theorem linkedListRemove_of_none (tail : l.pTail = none) :
    linkedListRemove l = some (.unavailableResource, none, l) := by
  rw [linkedListRemove, tail]

theorem linkedListRemove_of_first (tail : l.pTail = some address) (there : l.elements.lookup address = some element)
    (prev : element.prev = none) : linkedListRemove l =
    some (.success, some element.dataPtr, ⟨none, none, l.elements.erase address⟩) := by
  simp only [linkedListRemove, tail, there, prev, Option.bind_eq_bind, Option.bind_some]
  rfl

theorem linkedListRemove_of_later {last : ListElement Obj Dealloc} (tail : l.pTail = some address)
    (there : l.elements.lookup address = some element) (prev : element.prev = some other)
    (there' : l.elements.lookup other = some last) (different : address ≠ other) : linkedListRemove l =
    some (.success, some element.dataPtr,
      ⟨l.pHead, some other, (l.elements.insert other { last with next := none }).erase address⟩) := by
  simp only [linkedListRemove, tail, there, prev, ListState.setNext, there', Option.map_some,
    AList.lookup_insert_ne different, Option.bind_eq_bind, Option.bind_some]
  rfl

/-- The last element is taken out. -/
theorem linkedListRemove_holds (holds : l.Holds (front ++ [(address, obj, dealloc)])) :
    ∃ l', linkedListRemove l = some (.success, some obj, l') ∧ l'.Holds front := by
  have tail : l.pTail = some address := by rw [holds.last, lastOf_concat]
  obtain ⟨element, there, held, next, prev⟩ := holds.cell front address (obj, dealloc) [] rfl
  have data : element.dataPtr = obj := congrArg Prod.fst held
  have head := holds.first
  rw [firstOf_append_cons] at head
  cases before : lastOf front with
  | none =>
    rw [lastOf_eq_none] at before
    subst before
    refine ⟨_, data ▸ linkedListRemove_of_first tail there prev, ?_⟩
    refine holds.unlink _ rfl rfl (AList.lookup_erase _ _) fun other different => ?_
    exact (AList.lookup_erase_ne different).trans (congrFun Option.map_id _).symm
  | some other =>
    obtain ⟨last, present, next'⟩ := holds.next_of_prev there (prev.trans before)
    have different : address ≠ other := by
      rintro rfl
      obtain rfl := Option.some_inj.mp (there.symm.trans present)
      rw [next] at next'
      cases next'
    refine ⟨_, data ▸ linkedListRemove_of_later tail there (prev.trans before) present different, ?_⟩
    obtain ⟨first, whole⟩ := exists_firstOf before
    rw [whole, Option.some_or, ← whole] at head
    have unlinked := holds.unlink
      ⟨l.pHead, some other, (l.elements.insert other { last with next := none }).erase address⟩
      (by rw [List.append_nil, head]) (by rw [List.append_nil, before]) (AList.lookup_erase address _)
    rw [List.append_nil] at unlinked
    refine unlinked fun address' away => ?_
    rw [before]
    refine (AList.lookup_erase_ne away).trans ?_
    by_cases same : address' = other
    · rw [same, AList.lookup_insert, present, Option.map_some, if_pos rfl]
      rfl
    · have apart : some other ≠ some address' := fun equal => same (Option.some_inj.mp equal).symm
      simp only [AList.lookup_insert_ne same, if_neg apart]
      exact (congrFun Option.map_id _).symm

theorem ListState.Holds.walks (holds : l.Holds chain) : l.Walks chain := ⟨holds.first, holds.apart, holds.forward⟩

/-- Once the first element is freed the walk goes on from the next. -/
theorem ListState.Walks.free {message : Obj × Option Dealloc} (walks : l.Walks ((address, message) :: chain)) :
    ∃ element, l.pHead = some address ∧ l.elements.lookup address = some element ∧
      (element.dataPtr, element.deallocFunc) = message ∧
      ListState.Walks { l.free address with pHead := element.next } chain := by
  obtain ⟨element, there, held, next⟩ := walks.forward.1
  have apart := List.nodup_cons.mp walks.apart
  refine ⟨element, walks.head, there, held, next, apart.2, walks.forward.2.congr fun other member => ?_⟩
  exact AList.lookup_erase_ne fun same => apart.1 (same ▸ member)

theorem contents_of_some (head : l.pHead = some address) (there : l.elements.lookup address = some element) :
    l.contents = (element.dataPtr, element.deallocFunc) ::
      ListState.contents { l.free address with pHead := element.next } := by
  rw [ListState.contents, head]
  simp only
  split
  next missing =>
    rw [there] at missing
    cases missing
  next element' there' =>
    obtain rfl := Option.some_inj.mp (there.symm.trans there')
    rfl

theorem flushLoop_of_some (head : l.pHead = some address) (there : l.elements.lookup address = some element) :
    flushLoop l = (flushLoop { l.free address with pHead := element.next }).map fun later =>
      (later.1, element.call.toList ++ later.2) := by
  rw [flushLoop, head]
  simp only
  split
  next missing =>
    rw [there] at missing
    cases missing
  next element' there' =>
    obtain rfl := Option.some_inj.mp (there.symm.trans there')
    rfl

theorem contents_eq (walks : l.Walks chain) : l.contents = chain.map Prod.snd := by
  induction chain generalizing l with
  | nil =>
    rw [ListState.contents, walks.head]
    rfl
  | cons cell rest ih =>
    obtain ⟨element, head, there, held, later⟩ := walks.free
    rw [contents_of_some head there, ih later, held, List.map_cons]

/-- All elements are freed, each with its call. -/
theorem flushLoop_eq (walks : l.Walks chain) :
    ∃ l', flushLoop l = some (l', chain.filterMap fun cell => deallocCall cell.2) ∧ l'.pHead = none ∧
      ∀ address element, l'.elements.lookup address = some element →
        address ∉ chain.map Prod.fst ∧ l.elements.lookup address = some element := by
  induction chain generalizing l with
  | nil =>
    refine ⟨l, ?_, walks.head, fun address element there => ⟨List.not_mem_nil, there⟩⟩
    rw [flushLoop, walks.head]
    rfl
  | cons cell rest ih =>
    obtain ⟨element, head, there, held, later⟩ := walks.free
    obtain ⟨l', flushed, empty, left⟩ := ih later
    refine ⟨l', ?_, empty, fun address present at' => ?_⟩
    · have call : element.call = deallocCall cell.2 := by rw [← held]; rfl
      rw [flushLoop_of_some head there, flushed, Option.map_some, call, List.filterMap_cons]
      cases deallocCall cell.2 <;> rfl
    · obtain ⟨outside, before⟩ := left address present at'
      have different : address ≠ cell.1 := by
        rintro rfl
        rw [ListState.free, AList.lookup_erase] at before
        cases before
      rw [ListState.free, AList.lookup_erase_ne different] at before
      rw [List.map_cons, List.mem_cons, not_or]
      exact ⟨⟨different, outside⟩, before⟩

/-- A flush leaves an empty list, with each message's call in the order from the head on. -/
theorem linkedListFlush_holds (holds : l.Holds chain) :
    ∃ l', linkedListFlush l = some (.success, l', l.contents.filterMap deallocCall) ∧ l'.Holds [] := by
  obtain ⟨l', flushed, empty, left⟩ := flushLoop_eq holds.walks
  refine ⟨{ l' with pTail := none }, ?_, List.nodup_nil, empty, rfl, ?_, ?_⟩
  · rw [linkedListFlush, flushed, Option.map_some, contents_eq holds.walks, List.filterMap_map]
    rfl
  · intro before address data after whole
    exact absurd whole.symm (List.append_ne_nil_of_right_ne_nil _ (List.cons_ne_nil _ _))
  · intro address element there
    obtain ⟨outside, before⟩ := left address element there
    exact absurd (holds.only address element before) outside

theorem lookup_insert_map {elements : AList fun _ : ℕ => ListElement Obj Dealloc} {new : ListElement Obj Dealloc}
    {f : ListElement Obj Dealloc → ListElement Obj Dealloc} (there : elements.lookup address = some element)
    (own : some address = some other → f element = new) (elsewhere : some address ≠ some other → ∀ e, f e = e) :
    (elements.insert address new).lookup other = (elements.lookup other).map f := by
  by_cases same : other = address
  · rw [same, there, AList.lookup_insert, Option.map_some, own (congrArg some same.symm)]
  · rw [AList.lookup_insert_ne same, funext (elsewhere fun equal => same (Option.some_inj.mp equal).symm)]
    exact (congrFun Option.map_id _).symm

theorem exists_setNext (link : Option ℕ) (there : l.elements.lookup address = some element) :
    ∃ l', l.setNext address link = some l' ∧
    l'.pHead = l.pHead ∧ l'.pTail = l.pTail ∧ ∀ other, l'.elements.lookup other =
      (l.elements.lookup other).map fun e => { e with next := if some address = some other then link else e.next } :=
  ⟨_, congrArg (Option.map _) there, rfl, rfl, fun _ =>
    lookup_insert_map there (fun same => by rw [if_pos same]) fun apart _ => by rw [if_neg apart]⟩

theorem exists_setPrev (link : Option ℕ) (there : l.elements.lookup address = some element) :
    ∃ l', l.setPrev address link = some l' ∧
    l'.pHead = l.pHead ∧ l'.pTail = l.pTail ∧ ∀ other, l'.elements.lookup other =
      (l.elements.lookup other).map fun e => { e with prev := if some address = some other then link else e.prev } :=
  ⟨_, congrArg (Option.map _) there, rfl, rfl, fun _ =>
    lookup_insert_map there (fun same => by rw [if_pos same]) fun apart _ => by rw [if_neg apart]⟩

/-- The element before one is linked to the one after it. -/
theorem exists_leadOn {message : Obj × Option Dealloc} (holds : l.Holds (front ++ (address, message) :: back))
    (next : element.next = firstOf back) (prev : element.prev = lastOf front) :
    ∃ l', l.leadOn element.prev element.next = some l' ∧ l'.pHead = firstOf (front ++ back) ∧ l'.pTail = l.pTail ∧
      ∀ other, l'.elements.lookup other = (l.elements.lookup other).map fun e =>
        { e with next := if lastOf front = some other then firstOf back else e.next } := by
  rw [next, prev]
  cases before : lastOf front with
  | none =>
    obtain rfl := lastOf_eq_none.mp before
    exact ⟨_, rfl, rfl, rfl, fun other => (congrFun Option.map_id _).symm⟩
  | some other =>
    obtain ⟨own, there, -, -, prev'⟩ := holds.cell front address message back rfl
    obtain ⟨last, present, -⟩ := holds.next_of_prev there (prev'.trans before)
    obtain ⟨l', written, head, tail, reads⟩ := exists_setNext (firstOf back) present
    refine ⟨l', written, ?_, tail, reads⟩
    obtain ⟨first, whole⟩ := exists_firstOf before
    rw [head, holds.first, firstOf_append_cons, firstOf_append, whole, Option.some_or, Option.some_or]

/-- The element after one is linked to the one before it. -/
theorem exists_leadBack {message : Obj × Option Dealloc} (holds : l.Holds (front ++ (address, message) :: back))
    (next : element.next = firstOf back) (prev : element.prev = lastOf front) (tail : l'.pTail = l.pTail)
    (allocated : ∀ other e, l.elements.lookup other = some e → ∃ e', l'.elements.lookup other = some e') :
    ∃ l'', l'.leadBack element.next element.prev = some l'' ∧ l''.pHead = l'.pHead ∧
      l''.pTail = lastOf (front ++ back) ∧ ∀ other, l''.elements.lookup other = (l'.elements.lookup other).map fun e =>
        { e with prev := if firstOf back = some other then lastOf front else e.prev } := by
  rw [next, prev]
  cases after : firstOf back with
  | none =>
    obtain rfl := firstOf_eq_none.mp after
    exact ⟨_, rfl, rfl, by rw [List.append_nil], fun other => (congrFun Option.map_id _).symm⟩
  | some other =>
    obtain ⟨own, there, -, next', -⟩ := holds.cell front address message back rfl
    obtain ⟨follower, present, -⟩ := holds.prev_of_next there (next'.trans after)
    obtain ⟨e', present'⟩ := allocated other follower present
    obtain ⟨l'', written, head, tail', reads⟩ := exists_setPrev (lastOf front) present'
    refine ⟨l'', written, head, ?_, reads⟩
    obtain ⟨last, whole⟩ := exists_lastOf after
    rw [tail', tail, holds.last, lastOf_append_cons, lastOf_append, whole, Option.some_or, Option.some_or]

/-- An element that is found is taken out, and freed with its call unless it is copied out. -/
theorem removeFound_holds (holds : l.Holds (front ++ (address, obj, dealloc) :: back)) (copied : Bool) :
    ∃ l', removeFound l address copied = some (l', if copied then [] else (deallocCall (obj, dealloc)).toList) ∧
      l'.Holds (front ++ back) := by
  obtain ⟨element, there, held, next, prev⟩ := holds.cell front address (obj, dealloc) back rfl
  obtain ⟨l₁, step₁, head₁, tail₁, reads₁⟩ := exists_leadOn holds next prev
  have outside : lastOf front ≠ some address := by
    intro last
    have apart := holds.apart
    rw [List.map_append, List.nodup_append] at apart
    exact apart.2.2 address (mem_of_lastOf last) address List.mem_cons_self rfl
  have there₁ : l₁.elements.lookup address = some element := by
    rw [reads₁, there, Option.map_some, if_neg outside]
  obtain ⟨l₂, step₂, head₂, tail₂, reads₂⟩ := exists_leadBack holds next prev tail₁ fun other e present =>
    ⟨_, (reads₁ other).trans (congrArg (Option.map _) present)⟩
  have outside' : firstOf back ≠ some address := by
    intro first
    have apart := holds.apart
    rw [List.map_append, List.nodup_append, List.map_cons, List.nodup_cons] at apart
    exact apart.2.1.1 (mem_of_firstOf first)
  have there₂ : l₂.elements.lookup address = some element := by
    rw [reads₂, there₁, Option.map_some, if_neg outside']
  refine ⟨l₂.free address, ?_, ?_⟩
  · have call : element.call = deallocCall (obj, dealloc) := by rw [← held]; rfl
    simp only [removeFound, there, step₁, there₁, step₂, there₂, call, Option.bind_eq_bind, Option.bind_some]
    rfl
  · refine holds.unlink _ (head₂.trans head₁) tail₂ (AList.lookup_erase _ _) fun other away => ?_
    refine (AList.lookup_erase_ne away).trans ?_
    rw [reads₂, reads₁, Option.map_map]
    rfl

theorem searchLoop_eq (equal : Obj → Bool) {rounds : ℕ}
    (forward : view.Forward (fun address => l.elements.lookup address) chain)
    (enough : chain.length ≤ rounds) : searchLoop l equal rounds (firstOf chain) =
      some ((chain.find? fun cell => equal cell.2.1).map Prod.fst) := by
  induction chain generalizing rounds with
  | nil => cases rounds <;> rfl
  | cons cell rest ih =>
    obtain ⟨⟨element, there, held, next⟩, later⟩ := forward
    obtain ⟨left, rfl⟩ := Nat.exists_eq_add_of_le' enough
    have data : element.dataPtr = cell.2.1 := congrArg Prod.fst held
    have shorter : rest.length ≤ left + rest.length := Nat.le_add_left _ _
    change l.elements.lookup cell.1 = some element at there
    change (l.elements.lookup cell.1).bind _ = _
    rw [there, Option.bind_some, data, List.find?_cons]
    cases equal cell.2.1 with
    | true => rfl
    | false => exact (congrArg _ next).trans (ih later shorter)

theorem length_le (holds : l.Holds chain) : chain.length ≤ l.elements.keys.length := by
  have keys : (chain.map Prod.fst).length = chain.length := List.length_map Prod.fst
  rw [← keys]
  refine holds.apart.length_le_of_subset fun address member => ?_
  obtain ⟨cell, there, rfl⟩ := List.mem_map.mp member
  obtain ⟨front, back, rfl⟩ := List.append_of_mem there
  obtain ⟨element, present, -⟩ := holds.cell front cell.1 cell.2 back rfl
  exact AList.lookup_isSome.mp (by rw [present, Option.isSome_some])

/-- A search finds the first that is equal, which is taken out if it is to be removed. -/
theorem linkedListSearch_found {equal : Obj → Bool} (holds : l.Holds (front ++ (address, obj, dealloc) :: back))
    (before : ∀ cell ∈ front, equal cell.2.1 = false) (hit : equal obj = true) (dataP : Bool) :
    ∃ l', linkedListSearch l dataP (some equal) true = some (.success, if dataP then some obj else none, l',
        if dataP then [] else (deallocCall (obj, dealloc)).toList) ∧ l'.Holds (front ++ back) := by
  obtain ⟨element, there, held, -⟩ := holds.cell front address (obj, dealloc) back rfl
  obtain ⟨l', removed, holds'⟩ := removeFound_holds holds dataP
  have data : element.dataPtr = obj := congrArg Prod.fst held
  have first : (front ++ (address, obj, dealloc) :: back).find? (fun cell => equal cell.2.1) =
      some (address, obj, dealloc) := by
    rw [List.find?_append,
      List.find?_eq_none.mpr fun cell member => by rw [before cell member]; exact Bool.false_ne_true,
      List.find?_cons, hit, Option.none_or]
  have found := searchLoop_eq equal holds.forward (length_le holds)
  rw [← holds.first, first] at found
  refine ⟨l', ?_, holds'⟩
  cases last : l.pTail with
  | none =>
    exact absurd (holds.tail_eq_none_iff.mp last) (List.append_ne_nil_of_right_ne_nil _ (List.cons_ne_nil _ _))
  | some tail =>
    simp only [linkedListSearch, last, found, Option.map_some, there, removed, data, Option.bind_eq_bind,
      Option.bind_some, if_true]
    rfl

/-- A search that finds none, or that is not to remove what it finds, leaves the list as it is. -/
theorem linkedListSearch_kept {equal : Obj → Bool} {rmIfFound : Bool} (holds : l.Holds chain) (dataP : Bool)
    (kept : rmIfFound = false ∨ ∀ cell ∈ chain, equal cell.2.1 = false) :
    ∃ err data, linkedListSearch l dataP (some equal) rmIfFound = some (err, data, l, []) := by
  have found := searchLoop_eq equal holds.forward (length_le holds)
  rw [← holds.first] at found
  cases last : l.pTail with
  | none => exact ⟨.unavailableResource, none, by simp only [linkedListSearch, last]⟩
  | some tail =>
    cases first : chain.find? fun cell => equal cell.2.1 with
    | none =>
      rw [first] at found
      refine ⟨.success, none, ?_⟩
      simp only [linkedListSearch, last, found, Option.map_none, Option.bind_eq_bind, Option.bind_some]
      rfl
    | some cell =>
      obtain ⟨front, back, rfl⟩ := List.append_of_mem (List.mem_of_find?_eq_some first)
      obtain ⟨element, there, -⟩ := holds.cell front cell.1 cell.2 back rfl
      obtain rfl | none := kept
      · rw [first] at found
        refine ⟨.success, if dataP then some element.dataPtr else none, ?_⟩
        simp only [linkedListSearch, last, found, Option.map_some, there, Option.bind_eq_bind, Option.bind_some]
        rfl
      · have hit := List.find?_some first
        rw [none cell (List.mem_of_find?_eq_some first)] at hit
        cases hit

/-- The two ends lead nowhere, next and previous are inverse to each other, and neither end is there without the
other. -/
structure WellFormed (l : ListState Obj Dealloc) : Prop where
  head : ∀ address, l.pHead = some address → ∃ element, l.elements.lookup address = some element ∧ element.prev = none
  tail : ∀ address, l.pTail = some address → ∃ element, l.elements.lookup address = some element ∧ element.next = none
  next : ∀ address element other, l.elements.lookup address = some element → element.next = some other →
    ∃ follower, l.elements.lookup other = some follower ∧ follower.prev = some address
  prev : ∀ address element other, l.elements.lookup address = some element → element.prev = some other →
    ∃ leader, l.elements.lookup other = some leader ∧ leader.next = some address
  ends : l.pHead = none ↔ l.pTail = none

theorem ListState.Holds.wellFormed (holds : l.Holds chain) : WellFormed l where
  head := by
    intro address head
    rw [ListState.Holds, head] at holds
    exact holds.prev_head
  tail := by
    intro address tail
    rw [ListState.Holds, tail] at holds
    exact holds.next_tail
  next := fun _ _ _ there next => holds.prev_of_next there next
  prev := fun _ _ _ there prev => holds.next_of_prev there prev
  ends := holds.head_eq_none_iff.trans holds.tail_eq_none_iff.symm

/-- A call of a list. -/
inductive ListCall (Obj Dealloc : Type)
  | add (malloc : Malloc Obj Dealloc) (dataObj : Option Obj) (dealloc : Option Dealloc)
  | remove
  | flush
  | search (dataP : Bool) (equal : Option (Obj → Bool)) (rmIfFound : Bool)

/-- The list after a call. -/
def ListCall.after (l : ListState Obj Dealloc) : ListCall Obj Dealloc → Option (ListState Obj Dealloc)
  | add malloc dataObj dealloc => (linkedListAdd l (malloc.allocate l) dataObj dealloc).map Prod.snd
  | remove => (linkedListRemove l).map fun result => result.2.2
  | flush => (linkedListFlush l).map fun result => result.2.1
  | search dataP equal rmIfFound => (linkedListSearch l dataP equal rmIfFound).map fun result => result.2.2.1

/-- No call faults, and each leaves a list that is linked. -/
theorem ListCall.after_holds (holds : l.Holds chain) (call : ListCall Obj Dealloc) :
    ∃ l' chain', call.after l = some l' ∧ l'.Holds chain' := by
  cases call with
  | add malloc dataObj dealloc =>
    cases dataObj with
    | none => exact ⟨l, chain, rfl, holds⟩
    | some obj =>
      cases elem : malloc.allocate l with
      | none => exact ⟨l, chain, by rw [ListCall.after, elem]; rfl, holds⟩
      | some address =>
        obtain ⟨l', added, holds'⟩ := linkedListAdd_holds obj dealloc holds
          (malloc.fresh l address elem)
        exact ⟨l', _, by rw [ListCall.after, elem, added, Option.map_some], holds'⟩
  | remove =>
    obtain rfl | ⟨front, ⟨address, obj, dealloc⟩, rfl⟩ := chain.eq_nil_or_concat'
    · exact ⟨l, [], by rw [ListCall.after, linkedListRemove_of_none holds.last]; rfl, holds⟩
    · obtain ⟨l', removed, holds'⟩ := linkedListRemove_holds holds
      exact ⟨l', front, by rw [ListCall.after, removed]; rfl, holds'⟩
  | flush =>
    obtain ⟨l', flushed, holds'⟩ := linkedListFlush_holds holds
    exact ⟨l', [], by rw [ListCall.after, flushed]; rfl, holds'⟩
  | search dataP equal rmIfFound =>
    cases equal with
    | none => exact ⟨l, chain, rfl, holds⟩
    | some equal =>
      have unchanged : (rmIfFound = false ∨ ∀ cell ∈ chain, equal cell.2.1 = false) →
          ∃ l' chain', (ListCall.search dataP (some equal) rmIfFound).after l = some l' ∧ l'.Holds chain' := by
        intro kept
        obtain ⟨err, data, searched⟩ := linkedListSearch_kept holds dataP kept
        exact ⟨l, chain, by rw [ListCall.after, searched]; rfl, holds⟩
      cases rmIfFound with
      | false => exact unchanged (Or.inl rfl)
      | true =>
        cases first : chain.find? fun cell => equal cell.2.1 with
        | none =>
          refine unchanged (Or.inr fun cell member => ?_)
          exact Bool.eq_false_iff.mpr (List.find?_eq_none.mp first cell member)
        | some cell =>
          obtain ⟨hit, front, back, rfl, before⟩ := List.find?_eq_some_iff_append.mp first
          obtain ⟨l', found, holds'⟩ := linkedListSearch_found holds
            (fun cell member => by simpa using before cell member) hit dataP
          exact ⟨l', front ++ back, by rw [ListCall.after, found]; rfl, holds'⟩

/-- Calls of a list, one after another. -/
def ListCall.run (calls : List (ListCall Obj Dealloc)) : Option (ListState Obj Dealloc) :=
  calls.foldl (fun l call => l.bind call.after) (some linkedListInit)

/-- A list is well formed after any calls, the removal of one that is found included. -/
theorem ListCall.run_wellFormed (calls : List (ListCall Obj Dealloc)) :
    ∃ l, ListCall.run calls = some l ∧ WellFormed l := by
  have each : ∀ (l : ListState Obj Dealloc) chain, l.Holds chain → ∃ l' chain',
      calls.foldl (fun l call => l.bind call.after) (some l) = some l' ∧ l'.Holds chain' := by
    induction calls with
    | nil => exact fun l chain holds => ⟨l, chain, rfl, holds⟩
    | cons call rest ih =>
      intro l chain holds
      obtain ⟨l', chain', after, holds'⟩ := call.after_holds holds
      rw [List.foldl_cons, Option.bind_some, after]
      exact ih l' chain' holds'
  obtain ⟨l, chain, run, holds⟩ := each linkedListInit [] linkedListInit_holds
  exact ⟨l, run, holds.wellFormed⟩

end Cypfr.LinkedList
