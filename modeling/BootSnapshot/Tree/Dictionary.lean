import BootSnapshot.Tree.Error

set_option autoImplicit false

namespace BootSnapshot

/-- Keys with their values, in the order in which they are written. -/
structure Dictionary (α : Type) where
  entries : List (String × α)

namespace Dictionary

variable {α : Type}

def empty : Dictionary α := ⟨[]⟩

def keys (d : Dictionary α) : List String := d.entries.map Prod.fst

def size (d : Dictionary α) : Nat := d.entries.length

/-- No key occurs twice. -/
def Distinct (d : Dictionary α) : Prop := d.keys.Nodup

def lookup (key : String) : List (String × α) → Option α
  | [] => none
  | (name, value) :: rest => if name = key then some value else lookup key rest

def get? (d : Dictionary α) (key : String) : Option α := lookup key d.entries

def contains (d : Dictionary α) (key : String) : Bool := (d.get? key).isSome

/-- The first entry with the key gets the value; without one the key is appended. -/
def put (key : String) (value : α) : List (String × α) → List (String × α)
  | [] => [(key, value)]
  | (name, old) :: rest =>
    if name = key then (name, value) :: rest else (name, old) :: put key value rest

/-- A key that is present keeps its place and takes the new value; another one is appended. -/
def insert (d : Dictionary α) (key : String) (value : α) : Dictionary α := ⟨put key value d.entries⟩

/-- Without the first entry of the key. -/
def drop (key : String) : List (String × α) → List (String × α)
  | [] => []
  | (name, value) :: rest => if name = key then rest else (name, value) :: drop key rest

def remove (d : Dictionary α) (key : String) : Dictionary α := ⟨drop key d.entries⟩

/-- A new key at a position, in front of what stood there; at the end if that is the length. -/
def insertAt (d : Dictionary α) (position : Nat) (key : String) (value : α) :
    Except TreeError (Dictionary α) :=
  if d.contains key then .error (.duplicateKey key)
  else if d.size < position then .error (.indexOutOfBounds position d.size)
  else .ok ⟨d.entries.take position ++ (key, value) :: d.entries.drop position⟩

/-- Pairs put in one after another, so that of equal keys the first sets the place and the last
the value. -/
def ofPairs (pairs : List (String × α)) : Dictionary α :=
  pairs.foldl (fun d pair => d.insert pair.1 pair.2) empty

end Dictionary
end BootSnapshot
