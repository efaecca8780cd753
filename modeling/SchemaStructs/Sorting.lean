import SchemaStructs.Numeric.Extended

/-! # Stable sorting by a key -/

namespace SchemaStructs

/-- A way to compare keys: `le a b` says that `a` may stand before `b`. -/
abbrev Comparison (κ : Type u) := κ → κ → Bool

namespace Comparison

def text : Comparison String := fun a b => decide (a ≤ b)

def integer : Comparison Int := fun a b => decide (a ≤ b)

def extended : Comparison Numeric.Extended := fun a b => !b.less a

def pair {κ : Type u} {μ : Type v} [BEq κ] (first : Comparison κ) (second : Comparison μ) :
    Comparison (κ × μ) :=
  fun a b => if a.1 == b.1 then second a.2 b.2 else first a.1 b.1

/-- A list stands before its extensions. -/
def lexicographic {κ : Type u} [BEq κ] (le : Comparison κ) : Comparison (List κ)
  | [], _ => true
  | _ :: _, [] => false
  | a :: as, b :: bs => if a == b then lexicographic le as bs else le a b

end Comparison

variable {α : Type u} {κ : Type v}

def insertSorted (le : Comparison κ) (key : α → κ) (a : α) : List α → List α
  | [] => [a]
  | b :: rest => if le (key a) (key b) then a :: b :: rest else b :: insertSorted le key a rest

/-- Elements with equal keys keep their order. -/
def sortOn (le : Comparison κ) (key : α → κ) (xs : List α) : List α :=
  xs.foldr (insertSorted le key) []

def insertUnique [BEq κ] (le : Comparison κ) (a : κ) : List κ → List κ
  | [] => [a]
  | b :: rest =>
    if a == b then b :: rest
    else if le a b then a :: b :: rest
    else b :: insertUnique le a rest

/-- The elements in order, each once. -/
def sortedSet [BEq κ] (le : Comparison κ) (xs : List κ) : List κ :=
  xs.foldr (insertUnique le) []

/-- The chain of elements at the front of a list, each one related to the one before it. -/
def takeChain (next : α → α → Bool) (a : α) : List α → List α × List α
  | [] => ([], [])
  | b :: rest =>
    if next a b then
      let (chain, rest) := takeChain next b rest
      (b :: chain, rest)
    else ([], b :: rest)

/-- The place that bisection finds between two others for an element that stands before those with
`isAbove`. -/
def bisect (isAbove : α → Bool) (xs : List α) (low high : Nat) : Nat :=
  if low < high then
    let middle := low + (high - low) / 2
    if (xs[middle]?).any isAbove then bisect isAbove xs low middle
    else bisect isAbove xs (middle + 1) high
  else low
termination_by high - low

/-- Sorts elements some of which are not comparable: to the chain at the front, which may ascend or
descend, each further element is added at the place that bisection finds. -/
def arrange (less : α → α → Bool) : List α → List α
  | a :: b :: rest =>
    let (chain, rest) :=
      if less b a then
        let (chain, rest) := takeChain (fun x y => less y x) a (b :: rest)
        ((a :: chain).reverse, rest)
      else
        let (chain, rest) := takeChain (fun x y => !less y x) a (b :: rest)
        (a :: chain, rest)
    rest.foldl (fun sorted x => sorted.insertIdx (bisect (less x) sorted 0 sorted.length) x) chain
  | xs => xs

theorem insertSorted_perm (le : Comparison κ) (key : α → κ) (a : α) (xs : List α) :
    (insertSorted le key a xs).Perm (a :: xs) := by
  induction xs with
  | nil => exact .refl _
  | cons b rest ih =>
    unfold insertSorted
    split
    · exact .refl _
    · exact (ih.cons b).trans (.swap a b rest)

theorem sortOn_perm (le : Comparison κ) (key : α → κ) (xs : List α) :
    (sortOn le key xs).Perm xs := by
  induction xs with
  | nil => exact .refl _
  | cons a rest ih => exact (insertSorted_perm le key a _).trans (ih.cons a)

@[simp] theorem mem_sortOn {le : Comparison κ} {key : α → κ} {xs : List α} {a : α} :
    a ∈ sortOn le key xs ↔ a ∈ xs :=
  (sortOn_perm le key xs).mem_iff

@[simp] theorem length_sortOn (le : Comparison κ) (key : α → κ) (xs : List α) :
    (sortOn le key xs).length = xs.length :=
  (sortOn_perm le key xs).length_eq

theorem mem_insertUnique [BEq κ] [LawfulBEq κ] {le : Comparison κ} {a b : κ} {xs : List κ} :
    b ∈ insertUnique le a xs ↔ b = a ∨ b ∈ xs := by
  induction xs with
  | nil => simp [insertUnique]
  | cons c rest ih =>
    unfold insertUnique
    split
    · rename_i h
      have : a = c := eq_of_beq h
      simp [this]
    · split
      · simp
      · simp only [List.mem_cons, ih]
        exact or_left_comm

@[simp] theorem mem_sortedSet [BEq κ] [LawfulBEq κ] {le : Comparison κ} {a : κ} {xs : List κ} :
    a ∈ sortedSet le xs ↔ a ∈ xs := by
  induction xs with
  | nil => simp [sortedSet]
  | cons b rest ih =>
    rw [List.mem_cons, ← ih]
    exact mem_insertUnique

end SchemaStructs
