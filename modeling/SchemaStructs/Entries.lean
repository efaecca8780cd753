/-! # Keyed entries in order of first insertion -/

namespace SchemaStructs

abbrev Entries (κ : Type u) (β : Type v) := List (κ × β)

namespace Entries

variable {κ : Type u} {β : Type v} [BEq κ]

/-- A new key goes to the end; a known key keeps its place and takes the new value. -/
def put (k : κ) (v : β) : Entries κ β → Entries κ β
  | [] => [(k, v)]
  | (k', v') :: rest => if k == k' then (k', v) :: rest else (k', v') :: put k v rest

def get? (k : κ) : Entries κ β → Option β
  | [] => none
  | (k', v') :: rest => if k == k' then some v' else get? k rest

def has (k : κ) (entries : Entries κ β) : Bool := (get? k entries).isSome

def keys (entries : Entries κ β) : List κ := entries.map Prod.fst

def ofPairs (pairs : List (κ × β)) : Entries κ β :=
  pairs.foldl (fun entries p => entries.put p.1 p.2) []

@[simp] theorem get?_nil (k : κ) : get? k ([] : Entries κ β) = none := rfl

@[simp] theorem get?_put_self [LawfulBEq κ] (k : κ) (v : β) (entries : Entries κ β) :
    (entries.put k v).get? k = some v := by
  induction entries with
  | nil => simp [put, get?]
  | cons p rest ih => by_cases h : k == p.1 <;> simp [put, get?, h, ih]

theorem get?_put_of_ne [LawfulBEq κ] {k l : κ} (h : l ≠ k) (v : β) (entries : Entries κ β) :
    (entries.put k v).get? l = entries.get? l := by
  induction entries with
  | nil => simp [put, get?, h]
  | cons p rest ih =>
    by_cases hk : k == p.1
    · have : l ≠ p.1 := fun hl => h (hl.trans (eq_of_beq hk).symm)
      simp [put, get?, hk, this]
    · simp [put, get?, hk, ih]

end Entries

end SchemaStructs
