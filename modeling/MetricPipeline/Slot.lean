/-!
The dimension slots of a metric: sixteen numbered keys and one string key.
-/

namespace MetricPipeline

/-- How many slots there are. -/
def slotCount : Nat := 17

/-- A dimension slot. -/
abbrev Slot := Fin slotCount

namespace Slot

/-- The slot of the string key. -/
def stringKey : Slot := ⟨16, by decide⟩

/-- The collector's names of the slots, in order. -/
def names : List String :=
  ["0", "1", "2", "3", "4", "5", "6", "7", "8", "9", "10", "11", "12", "13", "14", "15", "_s"]

/-- The collector's name of a slot. -/
def name (slot : Slot) : String := names[slot.val]

/-- All slots in ascending order. -/
def all : List Slot := List.finRange slotCount

/-- The slot with one of the collector's names. -/
def ofName? (name : String) : Option Slot := all.find? (·.name = name)

/-- The slot a configuration names: by the collector's name, or by that name after "key", or by
"skey" for the string key. -/
def ofText? (text : String) : Option Slot :=
  if text = "skey" then some stringKey
  else
    match text.toList with
    | 'k' :: 'e' :: 'y' :: rest => ofName? (String.ofList rest)
    | _ => ofName? text

end Slot

end MetricPipeline
