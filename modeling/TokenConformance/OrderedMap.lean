/-!
# Ordered maps — one value for each key, keys in the order of their arrival

An `OrderedMap` keeps a key where it was first inserted; inserting it again overwrites the value
and moves nothing.  Two maps with the same keys and values are `Similar` in whatever order.
-/

namespace TokenConformance

/-- Pairs with pairwise different keys, in order. -/
structure OrderedMap (κ ν : Type) where
  entries : List (κ × ν)
  nodup : (entries.map Prod.fst).Nodup
  deriving DecidableEq

namespace OrderedMap

variable {κ ν ω : Type}

/-- Overwrites the value at a key where it stands, or puts a new pair at the end. -/
def insertEntry [DecidableEq κ] (key : κ) (value : ν) : List (κ × ν) → List (κ × ν)
  | [] => [(key, value)]
  | (k, v) :: rest => if k = key then (k, value) :: rest else (k, v) :: insertEntry key value rest

/-- Inserting keeps the keys that are there and adds a new one at the end. -/
theorem keys_insertEntry [DecidableEq κ] (key : κ) (value : ν) (l : List (κ × ν)) :
    (insertEntry key value l).map Prod.fst =
      if key ∈ l.map Prod.fst then l.map Prod.fst else l.map Prod.fst ++ [key] := by
  induction l with
  | nil => simp [insertEntry]
  | cons p rest ih =>
    obtain ⟨k, v⟩ := p
    by_cases h : k = key
    · simp [insertEntry, h]
    · have h' : ¬ key = k := fun e => h e.symm
      by_cases hm : key ∈ rest.map Prod.fst
      · simp [insertEntry, h, ih, hm]
      · simp [insertEntry, h, h', ih, hm]

/-- Inserting keeps the keys pairwise different. -/
theorem nodup_insertEntry [DecidableEq κ] (key : κ) (value : ν) {l : List (κ × ν)}
    (h : (l.map Prod.fst).Nodup) : ((insertEntry key value l).map Prod.fst).Nodup := by
  rw [keys_insertEntry]
  split
  · exact h
  · rename_i hm
    rw [List.nodup_append]
    exact ⟨h, by simp, fun a ha b hb => by simp at hb; rintro rfl; exact hm (hb ▸ ha)⟩

/-- The map without entries. -/
def empty : OrderedMap κ ν := ⟨[], List.nodup_nil⟩

instance : EmptyCollection (OrderedMap κ ν) := ⟨empty⟩

instance : Inhabited (OrderedMap κ ν) := ⟨empty⟩

/-- Gives `key` the value `value`. -/
def insert [DecidableEq κ] (m : OrderedMap κ ν) (key : κ) (value : ν) : OrderedMap κ ν :=
  ⟨insertEntry key value m.entries, nodup_insertEntry key value m.nodup⟩

/-- The map that arises from inserting the pairs one after another: the last value of a key counts,
and its first place. -/
def ofList [DecidableEq κ] (pairs : List (κ × ν)) : OrderedMap κ ν :=
  pairs.foldl (fun m p => m.insert p.1 p.2) ∅

/-- The value at a key. -/
def get? [DecidableEq κ] (m : OrderedMap κ ν) (key : κ) : Option ν :=
  (m.entries.find? fun p => decide (p.1 = key)).map Prod.snd

/-- The keys in order. -/
def keys (m : OrderedMap κ ν) : List κ := m.entries.map Prod.fst

/-- The number of keys. -/
def size (m : OrderedMap κ ν) : Nat := m.entries.length

/-- Whether every entry of one map is an entry of the other, and they have equally many. -/
def similar [DecidableEq κ] [DecidableEq ν] (m n : OrderedMap κ ν) : Bool :=
  m.size == n.size && m.entries.all fun p => n.get? p.1 == some p.2

end OrderedMap

end TokenConformance
