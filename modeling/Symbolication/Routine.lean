import Symbolication.Floor

/-! Where the routines of a running program start. An address belongs to the routine with the
greatest start at or below it, unless that routine has a size and the address lies farther from its
start than that. -/

namespace Symbolication

/-- A routine of a running program. -/
structure Routine where
  name : String
  /-- The file from which it was loaded. -/
  image : String
  start : Address
  size : Option Word
  deriving DecidableEq, Repr

/-- The routines that start at other addresses than the ones before them. -/
def Routine.distinctStarts (last : Option Address) : List Routine → List Routine
  | [] => []
  | r :: rest =>
    if last = some r.start then distinctStarts last rest
    else r :: distinctStarts (some r.start) rest

/-- A routine without a size reaches to any address after its start. -/
def Routine.reaches (r : Routine) (a : Address) : Bool := r.size.all (a - r.start ≤ ·)

/-- Routines sorted by start, one for each start. -/
structure RoutineMap where
  routines : Array Routine
  ascending : Floor.Ascending Routine.start routines.toList

namespace RoutineMap

theorem distinctStarts_sublist (last : Option Address) (routines : List Routine) :
    (Routine.distinctStarts last routines).Sublist routines := by
  induction routines generalizing last with
  | nil => exact List.Sublist.slnil
  | cons r rest ih =>
    unfold Routine.distinctStarts
    split
    · exact (ih last).cons r
    · exact (ih (some r.start)).cons_cons r

/-- The map of some routines, given in any order. Of several with one start the first is kept. -/
def ofList (routines : List Routine) : RoutineMap where
  routines := (Routine.distinctStarts none (routines.mergeSort (Floor.before Routine.start))).toArray
  ascending := (Floor.ascending_mergeSort Routine.start routines).sublist
    (distinctStarts_sublist none _)

/-- The routines in ascending order. -/
def toList (map : RoutineMap) : List Routine := map.routines.toList

def size (map : RoutineMap) : Nat := map.routines.size

def isEmpty (map : RoutineMap) : Bool := map.routines.isEmpty

/-- The routine that holds an address. -/
def holder? (map : RoutineMap) (a : Address) : Option Routine :=
  (Floor.floor? Routine.start map.routines a).filter (·.reaches a)

/-- The name of the routine that holds an address, its image and the offset into it. -/
def label? (map : RoutineMap) (a : Address) : Option String :=
  (map.holder? a).map fun r =>
    r.name ++ " (" ++ r.image ++ "+" ++ Address.marked (a - r.start) ++ ")"

theorem eq_of_toList_eq {map other : RoutineMap} (h : map.toList = other.toList) : map = other := by
  cases map
  cases other
  simpa [toList] using h

@[simp] theorem toList_ofList (routines : List Routine) :
    (ofList routines).toList =
      Routine.distinctStarts none (routines.mergeSort (Floor.before Routine.start)) := by
  simp [ofList, toList]

theorem mem_of_holder? {map : RoutineMap} {a : Address} {r : Routine}
    (h : map.holder? a = some r) : r ∈ map.toList :=
  (Floor.of_floor?_eq_some map.ascending (Option.filter_eq_some_iff.mp h).1).1

/-- The routine that holds an address starts at or below it. -/
theorem holder?_le {map : RoutineMap} {a : Address} {r : Routine} (h : map.holder? a = some r) :
    r.start ≤ a :=
  (Floor.of_floor?_eq_some map.ascending (Option.filter_eq_some_iff.mp h).1).2

end RoutineMap

end Symbolication
