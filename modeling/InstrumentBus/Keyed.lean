/-
Small maps kept as lists of pairs, in insertion order, one pair per key.
Everything said about such a list goes through `get?`: a list is read by
key, and each operation has one lemma that says what it does to the
reading.
-/
namespace InstrumentBus.Keyed

variable {κ ν : Type} [DecidableEq κ]

/-- The value kept under a key. -/
def get? : List (κ × ν) → κ → Option ν
  | [], _ => none
  | (k, v) :: rest, key => if k = key then some v else get? rest key

/-- A value put under a key: in the place of the value there, or last. -/
def set : List (κ × ν) → κ → ν → List (κ × ν)
  | [], key, v => [(key, v)]
  | (k, w) :: rest, key, v =>
    if k = key then (k, v) :: rest else (k, w) :: set rest key v

/-- The value under a key replaced by its image; no effect without one. -/
def modify (f : ν → ν) : List (κ × ν) → κ → List (κ × ν)
  | [], _ => []
  | (k, w) :: rest, key =>
    if k = key then (k, f w) :: rest else (k, w) :: modify f rest key

/-- The list without a key. -/
def erase (l : List (κ × ν)) (key : κ) : List (κ × ν) :=
  l.filter fun p => p.1 ≠ key

/-- What the values come to together, each counted by a measure. -/
def total (f : ν → Nat) : List (κ × ν) → Nat
  | [] => 0
  | (_, v) :: rest => f v + total f rest

/-- The keys, in insertion order. -/
def keys (l : List (κ × ν)) : List κ := l.map (·.1)

@[simp] theorem get?_nil (key : κ) : get? ([] : List (κ × ν)) key = none := rfl

theorem get?_set (l : List (κ × ν)) (key : κ) (v : ν) (k : κ) :
    get? (set l key v) k = if key = k then some v else get? l k := by
  induction l with
  | nil => simp [set, get?]
  | cons p rest ih =>
    obtain ⟨q, w⟩ := p
    simp only [set]
    by_cases hq : q = key
    · subst hq; by_cases hk : q = k <;> simp [get?, hk]
    · simp only [hq, if_false, get?, ih]
      by_cases hk : q = k
      · subst hk; simp [Ne.symm hq]
      · simp [hk]

theorem get?_modify (f : ν → ν) (l : List (κ × ν)) (key k : κ) :
    get? (modify f l key) k = if key = k then (get? l k).map f else get? l k := by
  induction l with
  | nil => simp [modify]
  | cons p rest ih =>
    obtain ⟨q, w⟩ := p
    simp only [modify]
    by_cases hq : q = key
    · subst hq; by_cases hk : q = k <;> simp [get?, hk]
    · simp only [hq, if_false, get?, ih]
      by_cases hk : q = k
      · subst hk; simp [Ne.symm hq]
      · simp [hk]

theorem get?_erase (l : List (κ × ν)) (key k : κ) :
    get? (erase l key) k = if key = k then none else get? l k := by
  induction l with
  | nil => simp [erase]
  | cons p rest ih =>
    obtain ⟨q, w⟩ := p
    simp only [erase, List.filter_cons] at ih ⊢
    by_cases hq : q = key
    · subst hq
      simp only [ne_eq, not_true_eq_false, decide_false, Bool.false_eq_true, if_false, ih, get?]
      by_cases hk : q = k <;> simp [hk]
    · simp only [ne_eq, hq, not_false_eq_true, decide_true, if_true, get?, ih]
      by_cases hk : q = k
      · subst hk; simp [Ne.symm hq]
      · simp [hk]

/-- A value replaced by one that counts less makes the whole count less. -/
theorem total_modify_lt {f : ν → Nat} {g : ν → ν} {l : List (κ × ν)} {key : κ} {v : ν}
    (h : get? l key = some v) (hv : f (g v) < f v) : total f (modify g l key) < total f l := by
  induction l with
  | nil => cases h
  | cons p rest ih =>
    obtain ⟨q, w⟩ := p
    simp only [get?] at h
    simp only [modify]
    by_cases hq : q = key
    · simp only [hq, if_true, Option.some.injEq] at h
      subst h
      simp only [hq, if_true, total]
      omega
    · simp only [hq, if_false] at h
      have := ih h
      simp only [hq, if_false, total]
      omega

/-- Of two values put under a key, the second stays. -/
theorem set_set (l : List (κ × ν)) (key : κ) (v w : ν) :
    set (set l key v) key w = set l key w := by
  induction l with
  | nil => simp [set]
  | cons p rest ih =>
    obtain ⟨k, u⟩ := p
    by_cases hk : k = key <;> simp [set, hk, ih]

/-- A value put under a key that is new comes last. -/
theorem set_of_get?_eq_none {l : List (κ × ν)} {key : κ} (h : get? l key = none) (v : ν) :
    set l key v = l ++ [(key, v)] := by
  induction l with
  | nil => rfl
  | cons p rest ih =>
    obtain ⟨k, w⟩ := p
    simp only [get?] at h
    by_cases hk : k = key
    · simp [hk] at h
    · simp only [hk, if_false] at h
      simp only [set, hk, if_false, ih h, List.cons_append]

theorem mem_of_get? {l : List (κ × ν)} {key : κ} {v : ν} (h : get? l key = some v) :
    (key, v) ∈ l := by
  induction l with
  | nil => simp at h
  | cons p rest ih =>
    obtain ⟨k, w⟩ := p
    simp only [get?] at h
    by_cases hk : k = key
    · simp_all
    · simp only [hk, if_false] at h
      exact List.mem_cons_of_mem _ (ih h)

theorem get?_eq_none_of_not_mem {l : List (κ × ν)} {key : κ} (h : key ∉ keys l) :
    get? l key = none := by
  cases hget : get? l key with
  | none => rfl
  | some v => exact absurd (List.mem_map_of_mem (mem_of_get? hget)) h

theorem eq_or_mem_of_mem_set {l : List (κ × ν)} {key : κ} {v : ν} {p : κ × ν}
    (h : p ∈ set l key v) : p = (key, v) ∨ p ∈ l := by
  induction l with
  | nil => simp_all [set]
  | cons q rest ih =>
    obtain ⟨k, w⟩ := q
    simp only [set] at h
    by_cases hk : k = key
    · simp only [hk, if_true] at h
      exact (List.mem_cons.mp h).imp_right (List.mem_cons_of_mem _)
    · simp only [hk, if_false, List.mem_cons] at h ⊢
      obtain h | h := h
      · exact .inr (.inl h)
      · exact (ih h).imp_right .inr

end InstrumentBus.Keyed
