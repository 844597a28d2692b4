/-
Who stands in line for a lock.

The line of an entry is the holder of its lock followed by the queue.
`World.InLine` says that a task stands in it exactly where its stage says
that it holds the lock or waits for it, that nobody stands in it twice,
that a task that holds the lock by its stage is at the head, and that
there is a head as long as anybody waits.

A step leaves a line as it is, puts the task at its end, or takes the
task out of it; where the task stood does not matter. This is what makes
a release and a withdrawal the same thing, although the one hands the
lock on and the other need not.
-/
import InstrumentBus.Proofs.Registry.Change

namespace InstrumentBus

namespace Registry

variable {r r' : Registry} {e : EntryId} {t : TaskId}

/-- The holder of the lock of an entry, and those who wait for it. -/
def line (r : Registry) (e : EntryId) : List TaskId := (r.holder? e).toList ++ r.waiting e

theorem lt_of_mem_line (h : t ∈ r.line e) : e < r.entries.length := by
  rcases List.mem_append.mp h with h | h
  · exact lt_of_holder? (Option.mem_toList.mp h)
  · refine lt_of_readOff (d := []) (f := (·.lock.waiters)) fun hnil => ?_
    rw [show r.waiting e = [] from hnil] at h
    cases h

/-- The holder stands in the line. -/
theorem mem_line_of_holder? (h : r.holder? e = some t) : t ∈ r.line e :=
  List.mem_append_left _ (Option.mem_toList.mpr h)

/-- The lock is not free while anybody waits for it. -/
def Busy (r : Registry) (e : EntryId) : Prop := r.holder? e = none → r.waiting e = []

theorem line_congr (h : r'.holder? e = r.holder? e ∧ r'.waiting e = r.waiting e) :
    r'.line e = r.line e := by
  unfold line
  rw [h.1, h.2]

theorem Busy.congr (hb : r.Busy e) (h : r'.holder? e = r.holder? e ∧ r'.waiting e = r.waiting e) :
    r'.Busy e := fun hf => h.2.trans (hb (h.1.symm.trans hf))

/-- The holder is at the head. -/
theorem Busy.head? (hb : r.Busy e) : (r.line e).head? = r.holder? e := by
  unfold line
  cases h : r.holder? e with
  | none =>
      rw [hb h]
      rfl
  | some j => rfl

theorem line_request (hb : r.Busy e) (h : e < r.entries.length) :
    (r.modifyLock e (·.request t)).line e = r.line e ++ [t] := by
  unfold line
  rw [holder?_request h, waiting_request h]
  cases hh : r.holder? e with
  | none =>
      rw [hb hh]
      rfl
  | some j => rfl

theorem line_release (hh : r.holder? e = some t) :
    (r.modifyLock e (·.release)).line e = r.waiting e := by
  unfold line
  rw [holder?_release (lt_of_holder? hh), waiting_release (lt_of_holder? hh)]
  cases r.waiting e <;> rfl

/-- A queue without a head is empty. -/
theorem busy_of_head {l : List TaskId} (hh : r.holder? e = l.head?) (hw : r.waiting e = l.tail) :
    r.Busy e := by
  intro hf
  rw [hw]
  cases l with
  | nil => rfl
  | cons j rest =>
      rw [hh] at hf
      cases hf

/-- The holder taken out of the line. -/
theorem filter_line (hn : (r.line e).Nodup) (hh : r.holder? e = some t) :
    (r.line e).filter (· ≠ t) = r.waiting e := by
  unfold line at hn ⊢
  rw [hh] at hn ⊢
  show List.filter _ (t :: r.waiting e) = _
  rw [List.filter_cons_of_neg (by simp), List.filter_eq_self]
  exact fun j hj => decide_eq_true fun hjt => (List.nodup_cons.mp hn).1 (hjt ▸ hj)

theorem line_withdraw (hn : (r.line e).Nodup) (h : e < r.entries.length) :
    (r.modifyLock e (·.withdraw t)).line e = (r.line e).filter (· ≠ t) := by
  by_cases hh : r.holder? e = some t
  · rw [filter_line hn hh]
    unfold line
    rw [holder?_withdraw h, waiting_withdraw h, if_pos hh, if_pos hh]
    cases r.waiting e <;> rfl
  · unfold line
    rw [holder?_withdraw h, waiting_withdraw h, if_neg hh, if_neg hh, List.filter_append]
    congr 1
    cases hj : r.holder? e with
    | none => rfl
    | some j =>
        rw [hj] at hh
        have hne : j ≠ t := fun hjt => hh (congrArg some hjt)
        exact (List.filter_eq_self.mpr fun i hi => by
          cases List.mem_singleton.mp hi
          exact decide_eq_true hne).symm

end Registry

-- ============================================= what a step does to a line

/-- A task holds the lock of an entry or waits for it, going by its stage. -/
def Task.StandsIn (t : Task) (e : EntryId) : Prop := t.lockHeld = some e ∨ t.queuedOn = some e

/-- What becomes of a line. -/
inductive Reline (id : TaskId) (t t' : Task) (e : EntryId) (l l' : List TaskId) : Prop where
  | keep (h : l' = l) (hs : t'.StandsIn e ↔ t.StandsIn e)
  | joins (h : l' = l ++ [id]) (hs : ¬ t.StandsIn e) (hs' : t'.StandsIn e)
  | leaves (h : l' = l.filter (· ≠ id)) (hs' : ¬ t'.StandsIn e)

section

variable {id : TaskId} {t t' : Task} {r r' : Registry} {e : EntryId}

namespace Reline

variable {l l' : List TaskId} {j : TaskId}

/-- The task stands in the line where its stage says so. -/
theorem mem_self (h : Reline id t t' e l l') (hl : id ∈ l ↔ t.StandsIn e) :
    id ∈ l' ↔ t'.StandsIn e := by
  cases h with
  | keep h hs => rw [h, hl, hs]
  | joins h _ hs' =>
      rw [h]
      exact ⟨fun _ => hs', fun _ => List.mem_append_right l (List.mem_singleton.mpr rfl)⟩
  | leaves h hs' =>
      rw [h]
      exact ⟨fun hm => absurd rfl (of_decide_eq_true (List.mem_filter.mp hm).2),
        fun h => absurd h hs'⟩

/-- The others stay in the line. -/
theorem mem_ne (h : Reline id t t' e l l') (hj : j ≠ id) : j ∈ l' ↔ j ∈ l := by
  cases h with
  | keep h _ => rw [h]
  | joins h _ _ =>
      rw [h, List.mem_append, List.mem_singleton]
      exact ⟨fun hm => hm.resolve_right hj, .inl⟩
  | leaves h _ =>
      rw [h, List.mem_filter]
      exact ⟨And.left, fun hm => ⟨hm, decide_eq_true hj⟩⟩

/-- Nobody gets ahead of another task that is at the head. -/
theorem head? (h : Reline id t t' e l l') (hj : j ≠ id) (hl : l.head? = some j) :
    l'.head? = some j := by
  cases h with
  | keep h _ => rw [h, hl]
  | joins h _ _ => rw [h, List.head?_append, hl, Option.some_or]
  | leaves h _ =>
      obtain ⟨rest, hrest⟩ := List.head?_eq_some_iff.mp hl
      rw [h, hrest, List.filter_cons_of_pos (p := (decide <| · ≠ id)) (decide_eq_true hj)]
      rfl

theorem nodup (h : Reline id t t' e l l') (hl : id ∈ l ↔ t.StandsIn e) (hn : l.Nodup) :
    l'.Nodup := by
  cases h with
  | keep h _ => exact h ▸ hn
  | joins h hs _ =>
      rw [h]
      refine List.nodup_append.mpr ⟨hn, List.nodup_cons.mpr ⟨nofun, .nil⟩, fun j hj k hk hjk => ?_⟩
      rw [List.mem_singleton.mp hk] at hjk
      exact hs (hl.mp (hjk ▸ hj))
  | leaves h _ =>
      rw [h]
      exact hn.filter _

end Reline

theorem Task.standsIn_of_queuedOn {e₀ : EntryId} (hh : t.lockHeld = none)
    (hq : t.queuedOn = some e₀) : t.StandsIn e ↔ e = e₀ := by
  unfold StandsIn
  rw [hh, hq]
  exact ⟨fun h => h.elim nofun fun h => (Option.some.inj h).symm, fun h => .inr (h ▸ rfl)⟩

theorem Task.standsIn_of_lockHeld {e₀ : EntryId} (hh : t.lockHeld = some e₀)
    (hq : t.queuedOn = none) : t.StandsIn e ↔ e = e₀ := by
  unfold StandsIn
  rw [hh, hq]
  exact ⟨fun h => h.elim (fun h => (Option.some.inj h).symm) nofun, fun h => .inl (h ▸ rfl)⟩

theorem Task.standsIn_of_none (hh : t.lockHeld = none) (hq : t.queuedOn = none) :
    ¬ t.StandsIn e := by
  unfold StandsIn
  rw [hh, hq]
  exact fun h => h.elim nofun nofun

/-- What the locks say of an entry is what they said before. -/
abbrev SameLock (r r' : Registry) (e : EntryId) : Prop :=
  r'.holder? e = r.holder? e ∧ r'.waiting e = r.waiting e

/-- What a step does to a line; and its head stays the holder. -/
abbrev Relines (id : TaskId) (t t' : Task) (r r' : Registry) (e : EntryId) : Prop :=
  Reline id t t' e (r.line e) (r'.line e) ∧ r'.Busy e ∧
    (t'.lockHeld = some e → r'.holder? e = some id)

theorem Relines.same (h : SameLock r r' e) (hs : t'.StandsIn e ↔ t.StandsIn e)
    (hf : t'.lockHeld = some e → r.holder? e = some id) (hb : r.Busy e) :
    Relines id t t' r r' e :=
  ⟨.keep (Registry.line_congr h) hs, hb.congr h, fun he => h.1.trans (hf he)⟩

/-- Another line than the one a step is about. -/
theorem Relines.elsewhere {e₀ : EntryId} (h : SameLock r r' e)
    (hs : t.StandsIn e → e = e₀) (hs' : t'.StandsIn e → e = e₀) (hne : e ≠ e₀) (hb : r.Busy e) :
    Relines id t t' r r' e :=
  .same h ⟨fun h => absurd (hs' h) hne, fun h => absurd (hs h) hne⟩
    (fun he => absurd (hs' (.inl he)) hne) hb

theorem Relock.relines (h : Relock id t t' r r') (hb : ∀ e, r.Busy e)
    (hn : ∀ e, (r.line e).Nodup) (hf : ∀ e, t.lockHeld = some e → r.holder? e = some id)
    (hq : ∀ e, t.queuedOn = some e → e < r.entries.length) (e : EntryId) :
    Relines id t t' r r' e := by
  -- the lock of another entry than the one that is changed
  have hother : ∀ {e₀} {f : Lock → Lock}, (∀ e', r'.holder? e' = (r.modifyLock e₀ f).holder? e' ∧
      r'.waiting e' = (r.modifyLock e₀ f).waiting e') → e ≠ e₀ → SameLock r r' e :=
    fun hl hne => ⟨(hl e).1.trans (Registry.holder?_modifyLock_ne _ _ (Ne.symm hne)),
      (hl e).2.trans (Registry.waiting_modifyLock_ne _ _ (Ne.symm hne))⟩
  cases h with
  | keep h hh hq' =>
      refine .same (h e) ?_ (fun he => hf e (hh ▸ he)) (hb e)
      unfold Task.StandsIn
      rw [hh, hq']
  | notice e₀ h hh hq₀ hg hh' hq' =>
      refine .same (h e) ?_ (fun he => ?_) (hb e)
      · rw [Task.standsIn_of_lockHeld hh' hq', Task.standsIn_of_queuedOn hh hq₀]
      · rw [hh'] at he
        cases he
        exact hg
  | request e₀ he hh hq₀ hl hh' hq' =>
      have hs' : t'.StandsIn e ↔ e = e₀ := by
        by_cases hgot : r'.holder? e₀ = some id
        · exact Task.standsIn_of_lockHeld (hh'.trans (if_pos hgot)) (hq'.trans (if_pos hgot))
        · exact Task.standsIn_of_queuedOn (hh'.trans (if_neg hgot)) (hq'.trans (if_neg hgot))
      by_cases hne : e = e₀
      · subst hne
        refine ⟨.joins ?_ (Task.standsIn_of_none hh hq₀) (hs'.mpr rfl), fun hfree => ?_,
          fun hgot => ?_⟩
        · rw [Registry.line_congr (hl e), Registry.line_request (hb e) he]
        · rw [(hl e).1, Registry.holder?_request he] at hfree
          cases hfree
        · rw [hh'] at hgot
          split at hgot
          next hg => exact hg
          next => cases hgot
      · exact .elsewhere (hother hl hne) (absurd · (Task.standsIn_of_none hh hq₀)) hs'.mp hne (hb e)
  | take e₀ hfree hh hq₀ he hw hl hh' hq' =>
      by_cases hne : e = e₀
      · subst hne
        refine ⟨.joins ?_ (Task.standsIn_of_none hh hq₀)
          ((Task.standsIn_of_lockHeld hh' hq').mpr rfl), fun hfree' => ?_, fun _ => he⟩
        · unfold Registry.line
          rw [he, hw, hfree, hb e hfree]
          rfl
        · rw [he] at hfree'
          cases hfree'
      · exact .elsewhere ⟨hl e hne, hw e⟩ (absurd · (Task.standsIn_of_none hh hq₀))
          (Task.standsIn_of_lockHeld hh' hq').mp hne (hb e)
  | release e₀ hh hq₀ hl hh' hq' =>
      by_cases hne : e = e₀
      · subst hne
        have hhold := hf e hh
        have hlt := Registry.lt_of_holder? hhold
        refine ⟨.leaves ?_ (Task.standsIn_of_none hh' hq'), ?_, fun hgot => ?_⟩
        · rw [Registry.line_congr (hl e), Registry.line_release hhold,
            Registry.filter_line (hn e) hhold]
        · refine Registry.busy_of_head (l := r.waiting e) ?_ ?_
          · exact (hl e).1.trans (Registry.holder?_release hlt)
          · exact (hl e).2.trans (Registry.waiting_release hlt)
        · rw [hh'] at hgot
          cases hgot
      · exact .elsewhere (hother hl hne) (Task.standsIn_of_lockHeld hh hq₀).mp
          (absurd · (Task.standsIn_of_none hh' hq')) hne (hb e)
  | withdraw e₀ hh hq₀ hl hh' hq' =>
      by_cases hne : e = e₀
      · subst hne
        have hlt := hq e hq₀
        refine ⟨.leaves ?_ (Task.standsIn_of_none hh' hq'), ?_, fun hgot => ?_⟩
        · rw [Registry.line_congr (hl e), Registry.line_withdraw (hn e) hlt]
        · by_cases hhold : r.holder? e = some id
          · refine Registry.busy_of_head (l := r.waiting e) ?_ ?_
            · rw [(hl e).1, Registry.holder?_withdraw hlt, if_pos hhold]
            · rw [(hl e).2, Registry.waiting_withdraw hlt, if_pos hhold]
          · intro hfree
            rw [(hl e).1, Registry.holder?_withdraw hlt, if_neg hhold] at hfree
            rw [(hl e).2, Registry.waiting_withdraw hlt, if_neg hhold, hb e hfree]
            rfl
        · rw [hh'] at hgot
          cases hgot
      · exact .elsewhere (hother hl hne) (Task.standsIn_of_queuedOn hh hq₀).mp
          (absurd · (Task.standsIn_of_none hh' hq')) hne (hb e)

end

-- ======================================================= everybody in line

namespace World

/-- Everybody stands where their stage says. -/
structure InLine (w : BusWorld) : Prop where
  -- a task stands in the lines its stage says, and in no others
  stands : ∀ id e, id ∈ w.site.registry.line e ↔ ∃ t, w.task? id = some t ∧ t.StandsIn e
  -- a task that holds a lock is at the head of the line
  front : ∀ id t e, w.task? id = some t → t.lockHeld = some e → w.site.registry.holder? e = some id
  -- nobody stands in a line twice
  once : ∀ e, (w.site.registry.line e).Nodup
  -- no lock is free while anybody waits for it
  busy : ∀ e, w.site.registry.Busy e

theorem InLine.change {who : Option TaskId} {w w' : BusWorld} (hi : w.InLine)
    (hc : Change who w w') : w'.InLine := by
  cases hc with
  | task id t t' hid ht hw he hs hp hf =>
      have hq : ∀ e, t.queuedOn = some e → e < w.site.registry.entries.length := fun e hq =>
        Registry.lt_of_mem_line ((hi.stands id e).mpr ⟨t, ht, .inr hq⟩)
      have hline := he.locks.relines hi.busy hi.once (hi.front id t · ht) hq
      have hown : w'.task? id = some t' := (hw id).trans (if_pos rfl)
      have hothers : ∀ j, j ≠ id → w'.task? j = w.task? j := fun j hj => (hw j).trans (if_neg hj)
      have hself : ∀ e, id ∈ w.site.registry.line e ↔ t.StandsIn e := by
        intro e
        rw [hi.stands, ht]
        exact ⟨fun ⟨_, hu, h⟩ => Option.some.inj hu ▸ h, fun h => ⟨t, rfl, h⟩⟩
      refine ⟨fun j e => ?_, fun j u e hu hheld => ?_,
        fun e => (hline e).1.nodup (hself e) (hi.once e), fun e => (hline e).2.1⟩
      · by_cases hj : j = id
        · subst hj
          rw [hown, (hline e).1.mem_self (hself e)]
          exact ⟨fun h => ⟨t', rfl, h⟩, fun ⟨_, hu, h⟩ => Option.some.inj hu ▸ h⟩
        · rw [hothers j hj, ← hi.stands, (hline e).1.mem_ne hj]
      · by_cases hj : j = id
        · subst hj
          rw [hown] at hu
          cases hu
          exact (hline e).2.2 hheld
        · rw [hothers j hj] at hu
          have hhead := (hi.busy e).head?.trans (hi.front j u e hu hheld)
          exact (hline e).2.1.head?.symm.trans ((hline e).1.head? hj hhead)
  | begun t hf hw hb hr =>
      have hlocks := hr.locks
      have hnone : ∀ e, ¬ t.StandsIn e := fun e => Task.standsIn_of_none hf.lockHeld hf.queuedOn
      refine ⟨fun j e => ?_, fun j u e hu hheld => ?_, fun e => ?_, fun e => ?_⟩
      · rw [Registry.line_congr (hlocks e), hi.stands, hw]
        by_cases hj : j = w.nextId
        · rw [if_pos hj, hj, task?_nextId]
          exact ⟨fun ⟨_, hu, _⟩ => (nomatch hu),
            fun ⟨_, hu, h⟩ => absurd (Option.some.inj hu ▸ h) (hnone e)⟩
        · rw [if_neg hj]
      · rw [(hlocks e).1]
        rw [hw] at hu
        split at hu
        · cases hu
          exact absurd (.inl hheld) (hnone e)
        · exact hi.front j u e hu hheld
      · rw [Registry.line_congr (hlocks e)]
        exact hi.once e
      · exact (hi.busy e).congr (hlocks e)
  | beside hw hl ht hr =>
      refine ⟨fun j e => ?_, fun j u e hu hheld => ?_, fun e => ?_, fun e => ?_⟩
      · rw [hr, hw]
        exact hi.stands j e
      · rw [hr]
        exact hi.front j u e (hw j ▸ hu) hheld
      · exact hr ▸ hi.once e
      · exact hr ▸ hi.busy e

end World

end InstrumentBus
