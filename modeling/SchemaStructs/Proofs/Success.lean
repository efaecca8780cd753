import Mathlib.Data.List.Forall2
import Mathlib.Data.List.Perm.Basic

/-!
# Successful and failed computations

What it takes for a composed computation to succeed: every part of it does. A successful traversal
is its step related pointwise to the list of results. A computation that fails has a part that fails
with the same error.
-/

namespace SchemaStructs

universe u v

/-! ## Pointwise related lists -/

section Related

variable {α : Type u} {β : Type v} {R : α → β → Prop} {xs : List α} {ys : List β}

theorem exists_right_of_mem (h : List.Forall₂ R xs ys) {x : α} (hx : x ∈ xs) : ∃ y ∈ ys, R x y := by
  induction h with
  | nil => cases hx
  | cons hR _ ih =>
    rcases List.mem_cons.1 hx with rfl | hx
    · exact ⟨_, List.mem_cons_self, hR⟩
    · obtain ⟨y, hy, h⟩ := ih hx
      exact ⟨y, List.mem_cons_of_mem _ hy, h⟩

theorem exists_left_of_mem (h : List.Forall₂ R xs ys) {y : β} (hy : y ∈ ys) : ∃ x ∈ xs, R x y :=
  exists_right_of_mem h.flip hy

theorem getElem?_of_forall₂ (h : List.Forall₂ R xs ys) {i : Nat} {x : α} (hx : xs[i]? = some x) :
    ∃ y, ys[i]? = some y ∧ R x y := by
  obtain ⟨hlength, hget⟩ := List.forall₂_iff_get.1 h
  obtain ⟨hi, rfl⟩ := List.getElem?_eq_some_iff.1 hx
  exact ⟨ys[i], List.getElem?_eq_getElem (hlength ▸ hi), hget i hi (hlength ▸ hi)⟩

theorem exists_of_forall₂_append_singleton {x : α} (h : List.Forall₂ R (xs ++ [x]) ys) :
    ∃ ys' y, List.Forall₂ R xs ys' ∧ R x y ∧ ys = ys' ++ [y] := by
  induction xs generalizing ys with
  | nil =>
    obtain ⟨y, _, hR, hnil, rfl⟩ := List.forall₂_cons_left_iff.1 h
    cases hnil
    exact ⟨[], y, .nil, hR, rfl⟩
  | cons x' rest ih =>
    obtain ⟨y', _, hR', hrest, rfl⟩ := List.forall₂_cons_left_iff.1 h
    obtain ⟨ys', y, hys', hR, rfl⟩ := ih hrest
    exact ⟨y' :: ys', y, .cons hR' hys', hR, rfl⟩

/-- Relations between neighbours of a chain of three lists, with what is known of their elements. -/
theorem forall₂_comp {γ : Type*} {S : β → γ → Prop} {T : α → γ → Prop} {zs : List γ}
    (hxy : List.Forall₂ R xs ys) (hyz : List.Forall₂ S ys zs)
    (h : ∀ x, ∀ y ∈ ys, ∀ z ∈ zs, R x y → S y z → T x z) : List.Forall₂ T xs zs := by
  induction hxy generalizing zs with
  | nil =>
    cases hyz
    exact .nil
  | cons hR _ ih =>
    cases hyz with
    | cons hS hyz =>
      refine .cons (h _ _ List.mem_cons_self _ List.mem_cons_self hR hS) (ih hyz ?_)
      exact fun x y hy z hz => h x y (List.mem_cons_of_mem _ hy) z (List.mem_cons_of_mem _ hz)

theorem forall₂_filter {p : α → Bool} {q : β → Bool} (h : List.Forall₂ R xs ys)
    (hpq : ∀ x y, R x y → p x = q y) : List.Forall₂ R (xs.filter p) (ys.filter q) := by
  induction h with
  | nil => exact .nil
  | @cons x y xs ys hxy _ ih =>
    rw [List.filter_cons, List.filter_cons, hpq x y hxy]
    split
    · exact .cons hxy ih
    · exact ih

/-- What is the same for related elements is the same list for related lists. -/
theorem map_eq_map_of_related {γ : Type*} {f : α → γ} {g : β → γ} (h : List.Forall₂ R xs ys)
    (hR : ∀ x y, R x y → f x = g y) : xs.map f = ys.map g := by
  induction h with
  | nil => rfl
  | cons hxy _ ih => rw [List.map_cons, List.map_cons, hR _ _ hxy, ih]

end Related

/-! ## Composed computations -/

variable {ε : Type u} {α β : Type v}

theorem bind_eq_ok_iff {x : Except ε α} {f : α → Except ε β} {b : β} :
    x >>= f = .ok b ↔ ∃ a, x = .ok a ∧ f a = .ok b := by
  cases x with
  | error e => simp [bind, Except.bind]
  | ok a => simp [bind, Except.bind]

theorem bind_of_eq_ok {x : Except ε α} {a : α} (h : x = .ok a)
    (f : α → Except ε β) : x >>= f = f a := by
  rw [h]
  rfl

theorem map_eq_ok_iff {x : Except ε α} {f : α → β} {b : β} :
    f <$> x = .ok b ↔ ∃ a, x = .ok a ∧ f a = b := by
  cases x with
  | error e => simp [Functor.map, Except.map]
  | ok a => simp [Functor.map, Except.map]

@[simp] theorem pure_eq_ok_iff {a b : α} : (pure a : Except ε α) = .ok b ↔ a = b := by
  simp [pure, Except.pure]

theorem toOption_eq_some_iff {x : Except ε α} {a : α} : x.toOption = some a ↔ x = .ok a := by
  cases x with
  | error e => simp [Except.toOption]
  | ok a' => simp [Except.toOption]

theorem mapError_eq_ok_iff {ε' : Type u} {x : Except ε α} {f : ε → ε'} {a : α} :
    x.mapError f = .ok a ↔ x = .ok a := by
  cases x with
  | error e => simp [Except.mapError]
  | ok a' => simp [Except.mapError]

/-- A traversal succeeds with the results of its steps. -/
theorem mapM_eq_ok_iff {f : α → Except ε β} {xs : List α} {ys : List β} :
    xs.mapM f = .ok ys ↔ List.Forall₂ (fun x y => f x = .ok y) xs ys := by
  induction xs generalizing ys with
  | nil => rw [List.mapM_nil, pure_eq_ok_iff, List.forall₂_nil_left_iff, eq_comm]
  | cons x rest ih =>
    rw [List.mapM_cons, bind_eq_ok_iff, List.forall₂_cons_left_iff]
    constructor
    · rintro ⟨y, hy, hrest⟩
      obtain ⟨ys', hys', h⟩ := bind_eq_ok_iff.1 hrest
      exact ⟨y, ys', hy, ih.1 hys', (pure_eq_ok_iff.1 h).symm⟩
    · rintro ⟨y, ys', hy, hrest, rfl⟩
      exact ⟨y, hy, bind_eq_ok_iff.2 ⟨ys', ih.2 hrest, rfl⟩⟩

theorem forM_eq_ok_iff {α : Type u} {f : α → Except ε PUnit} {xs : List α} :
    xs.forM f = .ok ⟨⟩ ↔ ∀ x ∈ xs, f x = .ok ⟨⟩ := by
  induction xs with
  | nil => simp
  | cons x rest ih =>
    rw [List.forM_eq_forM] at ih ⊢
    rw [List.forM_cons, bind_eq_ok_iff, List.forall_mem_cons]
    constructor
    · rintro ⟨⟨⟩, hx, hrest⟩
      exact ⟨hx, ih.1 hrest⟩
    · rintro ⟨hx, hrest⟩
      exact ⟨⟨⟩, hx, ih.2 hrest⟩

/-- A fold ends with the step of its last element. -/
theorem foldlM_append_singleton_eq_ok_iff {α : Type u} {f : β → α → Except ε β}
    {xs : List α} {a : α} {b b' : β} :
    (xs ++ [a]).foldlM f b = .ok b' ↔ ∃ b₁, xs.foldlM f b = .ok b₁ ∧ f b₁ a = .ok b' := by
  rw [List.foldlM_append, bind_eq_ok_iff]
  simp only [List.foldlM_cons, List.foldlM_nil, bind_pure]

/-- What every successful step of a fold keeps, a successful fold keeps. `P done b` speaks of the
elements gone through so far. -/
theorem foldlM_induction {α : Type u} {f : β → α → Except ε β} {P : List α → β → Prop}
    (step : ∀ done a b b', P done b → f b a = .ok b' → P (done ++ [a]) b')
    {xs : List α} {b b' : β} (h₀ : P [] b) (h : xs.foldlM f b = .ok b') : P xs b' := by
  suffices H : ∀ done rest b, P done b → rest.foldlM f b = .ok b' → P (done ++ rest) b' from
    H [] xs b h₀ h
  intro done rest
  induction rest generalizing done with
  | nil =>
    intro b hb hfold
    obtain rfl : b = b' := by simpa using hfold
    simpa using hb
  | cons a rest ih =>
    intro b hb hfold
    rw [List.foldlM_cons, bind_eq_ok_iff] at hfold
    obtain ⟨b₁, hb₁, hrest⟩ := hfold
    simpa using ih (done ++ [a]) b₁ (step done a b b₁ hb hb₁) hrest

/-! ## Failures -/

theorem bind_eq_error_iff {x : Except ε α} {f : α → Except ε β} {e : ε} :
    x >>= f = .error e ↔ x = .error e ∨ ∃ a, x = .ok a ∧ f a = .error e := by
  cases x with
  | error e' => simp [bind, Except.bind]
  | ok a => simp [bind, Except.bind]

theorem map_eq_error_iff {x : Except ε α} {f : α → β} {e : ε} :
    f <$> x = .error e ↔ x = .error e := by
  cases x with
  | error e' => simp [Functor.map, Except.map]
  | ok a => simp [Functor.map, Except.map]

@[simp] theorem pure_ne_error {a : α} {e : ε} : (pure a : Except ε α) ≠ .error e := nofun

/-- What is no failure is a result. -/
theorem exists_eq_ok {x : Except ε α} (h : ∀ e, x ≠ .error e) : ∃ a, x = .ok a := by
  cases x with
  | error e => exact absurd rfl (h e)
  | ok a => exact ⟨a, rfl⟩

theorem exists_of_isOk {x : Except ε α} (h : x.isOk = true) : ∃ a, x = .ok a :=
  exists_eq_ok fun e he => by rw [he] at h; cases h

/-- A traversal that fails does so at an element. -/
theorem exists_of_mapM_eq_error {f : α → Except ε β} {xs : List α} {e : ε}
    (h : xs.mapM f = .error e) : ∃ x ∈ xs, f x = .error e := by
  induction xs with
  | nil => cases h
  | cons x rest ih =>
    rw [List.mapM_cons, bind_eq_error_iff] at h
    rcases h with hx | ⟨y, -, h⟩
    · exact ⟨x, List.mem_cons_self, hx⟩
    rcases bind_eq_error_iff.1 h with hrest | ⟨ys, -, h⟩
    · obtain ⟨x', hx', he⟩ := ih hrest
      exact ⟨x', List.mem_cons_of_mem _ hx', he⟩
    · cases h

theorem exists_of_forM_eq_error {α : Type u} {f : α → Except ε PUnit} {xs : List α} {e : ε}
    (h : xs.forM f = .error e) : ∃ x ∈ xs, f x = .error e := by
  induction xs with
  | nil => cases h
  | cons x rest ih =>
    rw [List.forM_eq_forM] at ih h
    rw [List.forM_cons, bind_eq_error_iff] at h
    rcases h with hx | ⟨⟨⟩, -, hrest⟩
    · exact ⟨x, List.mem_cons_self, hx⟩
    · obtain ⟨x', hx', he⟩ := ih hrest
      exact ⟨x', List.mem_cons_of_mem _ hx', he⟩

/-- A fold that fails does so at an element, after a successful fold of the elements before it. -/
theorem foldlM_eq_error_iff {α : Type u} {f : β → α → Except ε β} {xs : List α} {b : β} {e : ε} :
    xs.foldlM f b = .error e ↔
      ∃ done x rest b', xs = done ++ x :: rest ∧ done.foldlM f b = .ok b' ∧ f b' x = .error e := by
  constructor
  · intro h
    induction xs generalizing b with
    | nil => cases h
    | cons x xs ih =>
      rw [List.foldlM_cons, bind_eq_error_iff] at h
      rcases h with hx | ⟨b', hb', h⟩
      · exact ⟨[], x, xs, b, rfl, rfl, hx⟩
      · obtain ⟨done, y, rest, b'', rfl, hdone, hy⟩ := ih h
        exact ⟨x :: done, y, rest, b'', rfl, bind_eq_ok_iff.2 ⟨b', hb', hdone⟩, hy⟩
  · rintro ⟨done, x, rest, b', rfl, hdone, hx⟩
    rw [List.foldlM_append, bind_eq_error_iff]
    exact .inr ⟨b', hdone, bind_eq_error_iff.2 (.inl hx)⟩

theorem exists_of_foldlM_eq_error {α : Type u} {f : β → α → Except ε β} {xs : List α}
    {b : β} {e : ε} (h : xs.foldlM f b = .error e) : ∃ x ∈ xs, ∃ b', f b' x = .error e := by
  obtain ⟨done, x, rest, b', rfl, -, hx⟩ := foldlM_eq_error_iff.1 h
  exact ⟨x, List.mem_append_right _ List.mem_cons_self, b', hx⟩

/-! ## Computations with the same outcome -/

/-- Both succeed, with related results, or both fail with the same error. -/
inductive SameOutcome (R : α → β → Prop) : Except ε α → Except ε β → Prop
  | ok {a : α} {b : β} : R a b → SameOutcome R (.ok a) (.ok b)
  | error (e : ε) : SameOutcome R (.error e) (.error e)

namespace SameOutcome

variable {γ δ : Type v} {R : α → β → Prop} {x : Except ε α} {y : Except ε β}

theorem bind {S : γ → δ → Prop} {f : α → Except ε γ} {g : β → Except ε δ} (h : SameOutcome R x y)
    (hfg : ∀ a b, x = .ok a → y = .ok b → R a b → SameOutcome S (f a) (g b)) :
    SameOutcome S (x >>= f) (y >>= g) := by
  cases h with
  | ok hR => exact hfg _ _ rfl rfl hR
  | error e => exact .error e

theorem map {S : γ → δ → Prop} {f : α → γ} {g : β → δ} (h : SameOutcome R x y)
    (hfg : ∀ a b, R a b → S (f a) (g b)) : SameOutcome S (f <$> x) (g <$> y) := by
  cases h with
  | ok hR => exact .ok (hfg _ _ hR)
  | error e => exact .error e

/-- A traversal whose steps have the same outcomes. -/
theorem mapM {ι : Type v} {xs : List ι} {f : ι → Except ε α} {g : ι → Except ε β}
    (h : ∀ i ∈ xs, SameOutcome R (f i) (g i)) :
    SameOutcome (List.Forall₂ R) (xs.mapM f) (xs.mapM g) := by
  induction xs with
  | nil => exact .ok .nil
  | cons i rest ih =>
    obtain ⟨hi, hrest⟩ := List.forall_mem_cons.1 h
    rw [List.mapM_cons, List.mapM_cons]
    refine hi.bind fun a b _ _ hab => (ih hrest).bind fun as bs _ _ has => ?_
    exact .ok (.cons hab has)

theorem of_eq {x y : Except ε α} (h : x = y) : SameOutcome (· = ·) x y := by
  subst h
  cases x with
  | error e => exact .error e
  | ok a => exact .ok rfl

end SameOutcome

theorem mapM_congr_of_mem {f g : α → Except ε β} {xs : List α} (h : ∀ x ∈ xs, f x = g x) :
    xs.mapM f = xs.mapM g := by
  induction xs with
  | nil => rfl
  | cons x rest ih =>
    rw [List.mapM_cons, List.mapM_cons, h x List.mem_cons_self,
      ih fun x' hx' => h x' (List.mem_cons_of_mem _ hx')]

theorem foldlM_congr_of_mem {α : Type u} {f g : β → α → Except ε β} {xs : List α} {b : β}
    (h : ∀ x ∈ xs, ∀ b, f b x = g b x) : xs.foldlM f b = xs.foldlM g b := by
  induction xs generalizing b with
  | nil => rfl
  | cons x rest ih =>
    rw [List.foldlM_cons, List.foldlM_cons, h x List.mem_cons_self]
    exact congrArg _ (funext fun b' => ih fun x' hx' => h x' (List.mem_cons_of_mem _ hx'))

/-- A traversal that can fail in one way only has the same outcome in any order of its elements, up
to the order of the results. -/
theorem mapM_sameOutcome_of_perm {f : α → Except ε β} {xs ys : List α} (hperm : xs.Perm ys) {e₀ : ε}
    (herror : ∀ x ∈ xs, ∀ e, f x = .error e → e = e₀) :
    SameOutcome List.Perm (xs.mapM f) (ys.mapM f) := by
  have hfail : ∀ {zs : List α}, zs.Perm xs → ∀ {e}, zs.mapM f = .error e → e = e₀ := by
    intro zs hzs e he
    obtain ⟨x, hx, hfx⟩ := exists_of_mapM_eq_error he
    exact herror x (hzs.mem_iff.1 hx) e hfx
  cases hxs : xs.mapM f with
  | ok results =>
    obtain ⟨results', hys, hresults⟩ := List.perm_comp_forall₂ hperm.symm (mapM_eq_ok_iff.1 hxs)
    rw [mapM_eq_ok_iff.2 hys]
    exact .ok hresults.symm
  | error e =>
    cases hys : ys.mapM f with
    | ok results =>
      obtain ⟨results', hxs', -⟩ := List.perm_comp_forall₂ hperm (mapM_eq_ok_iff.1 hys)
      rw [mapM_eq_ok_iff.2 hxs'] at hxs
      cases hxs
    | error e' =>
      obtain rfl := hfail (.refl _) hxs
      obtain rfl := hfail hperm.symm hys
      exact .error _

end SchemaStructs
