import BuildGate.Value.Hash

namespace BuildGate.Value

/-- The slots of a set's table: each free, or holding an element and its hash. -/
abbrev Slots := Array (Option (Value × UInt64))

def findSlot (slots : Slots) (mask : Nat) (h : UInt64) (v : Option Value) :
    Nat → Nat → UInt64 → Option Nat
  | 0, _, _ => none
  | fuel + 1, i, perturb =>
    let probes := if i + 9 ≤ mask then 9 else 0
    let hit := (List.range (probes + 1)).find? fun j =>
      match slots.getD (i + j) none with
      | none => true
      | some (w, hw) =>
        match v with
        | some x => hw == h && sameKey w x
        | none => false
    match hit with
    | some j => some (i + j)
    | none =>
      let perturb := perturb >>> 5
      findSlot slots mask h v fuel (((i * 5 + 1 + perturb.toNat) % (mask + 1))) perturb

def searchFuel (size : Nat) : Nat := 2 * size + 80

def placeNew (slots : Slots) (entry : Value × UInt64) : Slots :=
  let mask := slots.size - 1
  match findSlot slots mask entry.2 none (searchFuel slots.size) (entry.2.toNat % slots.size)
      entry.2 with
  | some i => slots.set! i (some entry)
  | none => slots

def tableSize (least : Nat) : Nat :=
  let rec grow : Nat → Nat → Nat
    | 0, n => n
    | fuel + 1, n => if n ≤ least then grow fuel (2 * n) else n
  grow 64 8

def regrow (slots : Slots) (least : Nat) : Slots :=
  let fresh : Slots := Array.replicate (tableSize least) none
  slots.foldl (fun t e =>
    match e with
    | some entry => placeNew t entry
    | none => t) fresh

def usedSlots (slots : Slots) : Nat := slots.foldl (fun n e => if e.isSome then n + 1 else n) 0

def addElement (slots : Slots) (v : Value) : Slots :=
  let mask := slots.size - 1
  let h := UInt64.ofInt (hash v)
  match findSlot slots mask h (some v) (searchFuel slots.size) (h.toNat % slots.size) h with
  | some i =>
    match slots.getD i none with
    | some _ => slots
    | none =>
      let slots := slots.set! i (some (v, h))
      let used := usedSlots slots
      if used * 5 < mask * 3 then slots
      else regrow slots (if used > 50000 then used * 2 else used * 4)
  | none => slots

/-- The elements of a set made by adding keys in order, in the order the set gives them back;
`fromMapping` when the set is filled from a mapping of these keys at once. -/
def setOrder (fromMapping : Bool) (keys : List Value) : List Value :=
  let start : Slots := Array.replicate 8 none
  let start := if fromMapping && keys.length * 5 ≥ 7 * 3 then regrow start (keys.length * 2)
    else start
  (keys.foldl addElement start).toList.filterMap (·.map (·.1))

end BuildGate.Value
