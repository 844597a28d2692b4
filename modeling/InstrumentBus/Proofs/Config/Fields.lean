/-
Tables of settings, read by key.

A table is a list of keys in ascending order. Everything below is said of
what is found under a key (`Keyed.get?`): a setting that is put is found
where it was put and nowhere else; of two tables laid over one another
each key has what the upper one has, laid over what the lower one has
(`Setting.laid`); and the fields of a document are found as they were
written. That the keys ascend is what makes a key unique, and it is asked
of the upper table alone.

A setting that is no table wins over whatever lies below it. A table does
not: it leaves standing what it does not mention, unless what lies below
it is no table.
-/
import InstrumentBus.Config.Load
import Mathlib.Data.String.Basic

namespace InstrumentBus.Setting

-- ======================================================= keys in order

/-- The keys of a table ascend. -/
def Ascending (fs : Fields) : Prop := fs.Pairwise fun p q => p.1 < q.1

theorem get?_put (key k : String) (v : Setting) (fs : Fields) :
    Keyed.get? (put key v fs) k = if key = k then some v else Keyed.get? fs k := by
  induction fs with
  | nil => rfl
  | cons p rest ih =>
      obtain ⟨q, w⟩ := p
      simp only [put]
      by_cases hq : key = q
      · subst hq
        by_cases hk : key = k <;> simp [Keyed.get?, hk]
      · by_cases hlt : key < q
        · simp [hq, hlt, Keyed.get?]
        · simp only [hq, hlt, if_false, Keyed.get?, ih]
          by_cases hk : q = k
          · subst hk
            simp [hq]
          · simp [hk]

theorem mem_put {key : String} {v : Setting} {fs : Fields} {p : String × Setting}
    (h : p ∈ put key v fs) : p.1 = key ∨ p ∈ fs := by
  induction fs with
  | nil =>
      rw [List.mem_singleton.mp h]
      exact .inl rfl
  | cons q rest ih =>
      obtain ⟨k, w⟩ := q
      simp only [put] at h
      split at h
      next hk =>
        rcases List.mem_cons.mp h with rfl | h
        · exact .inl hk.symm
        · exact .inr (List.mem_cons_of_mem _ h)
      next =>
        split at h
        · rcases List.mem_cons.mp h with rfl | h
          · exact .inl rfl
          · exact .inr h
        · rcases List.mem_cons.mp h with rfl | h
          · exact .inr List.mem_cons_self
          · exact (ih h).imp_right (List.mem_cons_of_mem _)

theorem Ascending.put {fs : Fields} (h : Ascending fs) (key : String) (v : Setting) :
    Ascending (put key v fs) := by
  induction fs with
  | nil => exact List.pairwise_singleton _ _
  | cons p rest ih =>
      obtain ⟨k, w⟩ := p
      obtain ⟨hfirst, hrest⟩ := List.pairwise_cons.mp h
      simp only [Setting.put]
      by_cases hk : key = k
      · rw [if_pos hk]
        exact List.pairwise_cons.mpr ⟨hfirst, hrest⟩
      · rw [if_neg hk]
        by_cases hlt : key < k
        · rw [if_pos hlt]
          refine List.pairwise_cons.mpr ⟨fun q hq => ?_, h⟩
          rcases List.mem_cons.mp hq with rfl | hq
          · exact hlt
          · exact lt_trans hlt (hfirst q hq)
        · rw [if_neg hlt]
          refine List.pairwise_cons.mpr ⟨fun q hq => ?_, ih hrest⟩
          rcases mem_put hq with hq | hq
          · rw [hq]
            exact lt_of_le_of_ne (not_lt.mp hlt) (Ne.symm hk)
          · exact hfirst q hq

/-- The key of the first field is in no other. -/
theorem Ascending.get?_rest {k : String} {v : Setting} {rest : Fields}
    (h : Ascending ((k, v) :: rest)) : Keyed.get? rest k = none := by
  cases hr : Keyed.get? rest k with
  | none => rfl
  | some w =>
      have hlt : k < k := (List.pairwise_cons.mp h).1 _ (Keyed.mem_of_get? hr)
      exact absurd hlt (lt_irrefl k)

-- =========================================================== laid over

/-- A setting that may be there, laid over one that may be. -/
def laid (lower upper : Option Setting) : Option Setting :=
  match upper, lower with
  | none, lower => lower
  | some v, none => some v
  | some v, some w => some (w.merge v)

@[simp] theorem mergeFields_nil (base : Fields) : mergeFields base [] = base := rfl

theorem mergeFields_cons (base rest : Fields) (k : String) (v : Setting) :
    ∃ v', mergeFields base ((k, v) :: rest) = mergeFields (put k v' base) rest ∧
      some v' = laid (Keyed.get? base k) (some v) := by
  refine ⟨_, rfl, ?_⟩
  cases Keyed.get? base k <;> rfl

theorem Ascending.mergeFields {base : Fields} (h : Ascending base) (fs : Fields) :
    Ascending (mergeFields base fs) := by
  induction fs generalizing base with
  | nil => exact h
  | cons p rest ih =>
      obtain ⟨k, v⟩ := p
      obtain ⟨v', hcons, -⟩ := mergeFields_cons base rest k v
      rw [hcons]
      exact ih (h.put k v')

/-- Two tables laid over one another, key by key. -/
theorem get?_mergeFields {fs : Fields} (h : Ascending fs) (base : Fields) (key : String) :
    Keyed.get? (mergeFields base fs) key = laid (Keyed.get? base key) (Keyed.get? fs key) := by
  induction fs generalizing base with
  | nil => rfl
  | cons p rest ih =>
      obtain ⟨k, v⟩ := p
      obtain ⟨v', hcons, hv'⟩ := mergeFields_cons base rest k v
      rw [hcons, ih (List.pairwise_cons.mp h).2, get?_put]
      by_cases hk : k = key
      · subst hk
        rw [if_pos rfl, h.get?_rest, hv']
        simp only [Keyed.get?, if_true]
        rfl
      · simp [hk, Keyed.get?]

/-- The setting is a table. -/
def IsTable (v : Setting) : Prop := ∃ source fs, v = .table source fs

theorem merge_table (source source' : Source) (base fs : Fields) :
    merge (.table source base) (.table source' fs) = .table source' (mergeFields base fs) := rfl

/-- What is no table wins over whatever is below it. -/
theorem merge_of_not_table {v : Setting} (h : ¬ v.IsTable) (w : Setting) : w.merge v = v := by
  cases v with
  | table source fs => exact absurd ⟨source, fs, rfl⟩ h
  | _ => rfl

theorem laid_of_not_table {v : Setting} (h : ¬ v.IsTable) (w : Option Setting) :
    laid w (some v) = some v := by
  cases w with
  | none => rfl
  | some w => exact congrArg some (merge_of_not_table h w)

-- ======================================================== of a document

theorem ascending_ofFields (source : Source) (fs : Toml.Fields) :
    Ascending (ofFields source fs) := by
  induction fs with
  | nil => exact List.Pairwise.nil
  | cons p rest ih =>
      obtain ⟨k, v⟩ := p
      exact ih.put k (ofToml source v)

theorem get?_ofFields (source : Source) (fs : Toml.Fields) (key : String) :
    Keyed.get? (ofFields source fs) key = (Keyed.get? fs key).map (ofToml source) := by
  induction fs with
  | nil => rfl
  | cons p rest ih =>
      obtain ⟨k, v⟩ := p
      simp only [ofFields, get?_put, Keyed.get?, ih]
      split <;> rfl

/-- A table of a document that does not use the key that stands for the
whole. -/
theorem ofToml_table (source : Source) (origin : Toml.Origin) {fs : Toml.Fields}
    (h : Keyed.get? fs wrapper = none) :
    ofToml source (.table origin fs) = .table source (ofFields source fs) := by
  show ofTable source (ofFields source fs) = _
  unfold ofTable
  rw [get?_ofFields, h]
  rfl

end InstrumentBus.Setting
