/-!
Maps from text that remember the order in which their keys came.
-/

namespace DesignToCode

structure OrderedMap (α : Type) where
  entries : List (String × α)
  distinct : (entries.map Prod.fst).Nodup

namespace OrderedMap

variable {α : Type}

/-- Sets the value of `key` where it stands, at the end if it is new. -/
def put (key : String) (value : α) : List (String × α) → List (String × α)
  | [] => [(key, value)]
  | entry :: rest =>
    if entry.1 = key then (key, value) :: rest else entry :: put key value rest

theorem mem_keys_put {key other : String} {value : α} {entries : List (String × α)} :
    other ∈ (put key value entries).map Prod.fst ↔
      other = key ∨ other ∈ entries.map Prod.fst := by
  induction entries with
  | nil => simp [put]
  | cons entry rest ih =>
    by_cases same : entry.1 = key
    · simp [put, same]
    · simp only [put, same, if_false, List.map_cons, List.mem_cons, ih]
      constructor
      · rintro (first | isKey | later)
        · exact Or.inr (Or.inl first)
        · exact Or.inl isKey
        · exact Or.inr (Or.inr later)
      · rintro (isKey | first | later)
        · exact Or.inr (Or.inl isKey)
        · exact Or.inl first
        · exact Or.inr (Or.inr later)

theorem nodup_keys_put {key : String} {value : α} {entries : List (String × α)}
    (distinct : (entries.map Prod.fst).Nodup) :
    ((put key value entries).map Prod.fst).Nodup := by
  induction entries with
  | nil => simp [put]
  | cons entry rest ih =>
    by_cases same : entry.1 = key
    · simpa [put, same] using distinct
    · rw [List.map_cons, List.nodup_cons] at distinct
      rw [put, if_neg same, List.map_cons, List.nodup_cons, mem_keys_put]
      refine ⟨?_, ih distinct.2⟩
      rintro (isKey | later)
      · exact same isKey
      · exact distinct.1 later

def empty : OrderedMap α :=
  ⟨[], List.nodup_nil⟩

instance : Inhabited (OrderedMap α) :=
  ⟨empty⟩

def insert (map : OrderedMap α) (key : String) (value : α) : OrderedMap α :=
  ⟨put key value map.entries, nodup_keys_put map.distinct⟩

def get? (map : OrderedMap α) (key : String) : Option α :=
  map.entries.lookup key

def keys (map : OrderedMap α) : List String :=
  map.entries.map Prod.fst

def values (map : OrderedMap α) : List α :=
  map.entries.map Prod.snd

def size (map : OrderedMap α) : Nat :=
  map.entries.length

def isEmpty (map : OrderedMap α) : Bool :=
  map.entries.isEmpty

def insertAll (map : OrderedMap α) (entries : List (String × α)) : OrderedMap α :=
  entries.foldl (fun map entry => map.insert entry.1 entry.2) map

def ofList (entries : List (String × α)) : OrderedMap α :=
  empty.insertAll entries

def merge (map other : OrderedMap α) : OrderedMap α :=
  map.insertAll other.entries

variable [BEq α]

/-- The entries of `other` that `map` lacks or has with another value. -/
def diff (map other : OrderedMap α) : OrderedMap α :=
  ⟨other.entries.filter fun entry => map.get? entry.1 != some entry.2,
    other.distinct.sublist (List.filter_sublist.map Prod.fst)⟩

def agrees (map other : OrderedMap α) : Bool :=
  map.size == other.size && map.entries.all fun entry => other.get? entry.1 == some entry.2

end OrderedMap

end DesignToCode
