import MetricPipeline.Cache.Entry
import MetricPipeline.Deadline
import MetricPipeline.RingBuffer

/-!
The aggregation cache: events that share a name, a kind and dimensions are merged for one window.

Counters are summed in place; values and identifiers are collected up to a cap. The entries live in a
ring, so they leave in the order of their arrival, and an index finds the entry to merge into. An
operation answers with the cache afterwards and with the events that left it, oldest first.
-/

namespace MetricPipeline

/-- What became of an event that was offered to the cache. -/
inductive Intake where
  /-- It was merged into an entry. -/
  | merged
  /-- It has an entry of its own. -/
  | buffered
  /-- It was not taken. -/
  | rejected
  deriving DecidableEq, Repr

/-- Entries and how to find them. -/
structure Cache where
  /-- The entries. -/
  ring : RingBuffer Cache.Entry
  /-- The number of the entry of each key. -/
  index : List (Cache.Key × Nat)
  /-- How long an entry stays, in milliseconds. -/
  window : Nat
  /-- How many values or identifiers an entry takes. -/
  sampleCap : Nat
  /-- When the window of the oldest entry ends. -/
  timer : Deadline
  deriving DecidableEq, Repr

namespace Cache

/-- A cache of a size in bytes without entries. The cap is at most what those bytes can hold. -/
def empty (size window sampleCap : Nat) : Cache :=
  { ring := RingBuffer.empty size
    index := []
    window
    sampleCap := min sampleCap (size / sampleSize)
    timer := Deadline.unarmed }

/-- How many entries there are. -/
def length (cache : Cache) : Nat := cache.ring.length

/-- When the cache has something to do next. -/
def deadline (cache : Cache) : Option Nat := cache.timer.time

/-- How many samples an entry of a kind holds at most. -/
def room (cache : Cache) : Kind → Nat
  | .counter => 1
  | .value | .unique => cache.sampleCap

/-- The size of an entry for an event. -/
def entrySize (cache : Cache) (event : Event) : Nat :=
  entryOverhead + event.valueSize + (cache.room event.kind - 1) * sampleSize

/-- The key of an event. -/
def keyOf (cache : Cache) (event : Event) : Key :=
  { digest := event.digest, size := cache.entrySize event, kind := event.kind }

/-- The event of a record. -/
def eventOf (cache : Cache) (record : Record Entry) : Event :=
  record.tag.event (cache.room record.tag.key.kind) (cache.ring.bytesOf record.extent)

/-- The events of all entries, oldest first. -/
def events (cache : Cache) : List Event := cache.ring.records.map cache.eventOf

/-- Whether an event has the name and the dimensions of a record. -/
def hasShapeOf (cache : Cache) (record : Record Entry) (event : Event) : Bool :=
  record.tag.hasShape (cache.room record.tag.key.kind) (cache.ring.bytesOf record.extent) event

/-- Forgets how to find the entry of a key. -/
def unindex (cache : Cache) (key : Key) : Cache :=
  { cache with index := cache.index.filter (·.1 ≠ key) }

/-- Remembers the number of the entry of a key. -/
def setIndex (cache : Cache) (key : Key) (number : Nat) : Cache :=
  { cache with index := (key, number) :: (cache.unindex key).index }

/-- The timer follows the oldest entry. -/
def armTimer (cache : Cache) : Cache :=
  match cache.ring.front? with
  | some (_, record) =>
    { cache with timer := cache.timer.arm (record.tag.inserted + cache.window) }
  | none => cache

/-! ## Leaving -/

/-- Releases the oldest entry. -/
def release (cache : Cache) : Cache :=
  match cache.ring.pop? with
  | none => cache
  | some (record, ring) =>
    let rest := { cache with ring }
    if record.tag.isIndexed then rest.unindex record.tag.key else rest

/-- How many of the oldest entries leave: those whose window has passed, up to the first one whose
window has not, or all of them. -/
def leaving (cache : Cache) (now : Nat) (all : Bool) : Nat :=
  (cache.ring.records.takeWhile fun record =>
    all || record.tag.isExpired cache.window now).length

/-- The cache after a number of entries left. -/
def releaseMany (cache : Cache) : Nat → Cache
  | 0 => cache
  | count + 1 => cache.release.releaseMany count

/-- Hands over the entries whose window has passed, or all of them. -/
def reclaim (cache : Cache) (now : Nat) (all : Bool) : Cache × List Event :=
  let count := cache.leaving now all
  (cache.releaseMany count, (cache.ring.records.take count).map cache.eventOf)

/-- Hands over the entries whose window has passed, once the timer is due. -/
def onTimer (cache : Cache) (now : Nat) : Cache × List Event :=
  if cache.timer.isDue now then
    let (rest, events) := { cache with timer := Deadline.unarmed }.reclaim now false
    (rest.armTimer, events)
  else (cache, [])

/-- Hands over all entries. -/
def drain (cache : Cache) (now : Nat) : Cache × List Event :=
  { cache with timer := Deadline.unarmed }.reclaim now true

/-! ## Arriving -/

/-- Puts an event into an entry of its own; none when the ring has no room. -/
def insert? (cache : Cache) (event : Event) (sample : Sample) (now : Nat) : Option Cache :=
  let key := cache.keyOf event
  (cache.ring.alloc? key.size (.ofEvent key event now)).map fun (number, ring) =>
    let sampled := ring.write number 0 (Wire.word64 sample.word)
    let ring := sampled.write number (cache.room event.kind * sampleSize) event.valueBytes
    ({ cache with ring }.setIndex key number).armTimer

/-- Puts an event into an entry of its own. When there is no room, the entries whose window has passed
make room. -/
def insert (cache : Cache) (event : Event) (sample : Sample) (now : Nat) :
    Cache × Intake × List Event :=
  match cache.insert? event sample now with
  | some inserted => (inserted, .buffered, [])
  | none =>
    let (rest, events) := cache.reclaim now false
    if events = [] then (rest, .rejected, [])
    else
      match rest.insert? event sample now with
      | some inserted => (inserted, .buffered, events)
      | none => (rest, .rejected, events)

/-- Merges a sample into the record of a number: a counter is added to the sum, any other sample is
appended while there is room. -/
def merge? (cache : Cache) (number : Nat) (record : Record Entry) (sample : Sample) :
    Option Cache :=
  match sample with
  | .counter amount =>
    let sum : Real64 := ⟨firstWord (cache.ring.bytesOf record.extent)⟩ + amount
    some { cache with ring := cache.ring.write number 0 (Wire.word64 sum.bits) }
  | .value _ | .unique _ =>
    if record.tag.samples < cache.room sample.kind then
      let position := record.tag.samples * sampleSize
      let ring := cache.ring.write number position (Wire.word64 sample.word)
      some { cache with
        ring := ring.setTag number { record.tag with samples := record.tag.samples + 1 } }
    else none

/-- A full entry stays until its window ends, but takes no more samples. -/
def detach (cache : Cache) (number : Nat) (entry : Entry) : Cache :=
  { cache with ring := cache.ring.setTag number { entry with isIndexed := false } }.unindex entry.key

/-- Offers an event to the cache. Only events with a single sample are taken, none while the owner is
exiting, and none but counters when the cap is zero. -/
def ingest (cache : Cache) (event : Event) (now : Nat) (exiting : Bool) :
    Cache × Intake × List Event :=
  let rejected := (cache, Intake.rejected, [])
  if exiting ∨ cache.room event.kind = 0 then rejected
  else
    match event.single? with
    | none => rejected
    | some sample =>
      match cache.index.lookup (cache.keyOf event) with
      | none => cache.insert event sample now
      | some number =>
        match cache.ring.record? number with
        | none => rejected
        | some record =>
          if cache.hasShapeOf record event then
            match cache.merge? number record sample with
            | some merged => (merged, .merged, [])
            | none => (cache.detach number record.tag).insert event sample now
          else rejected

end Cache

end MetricPipeline
