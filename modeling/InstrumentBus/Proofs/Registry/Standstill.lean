/-
No lock is lost.

A caller in line for a lock depends on those before it, and each of them
may leave in many ways: its program comes to an end, it is cancelled,
also when it has been handed the lock and has not noticed, it is dropped,
the driver refuses it a session, or it finds that its entry has left the
cache and looks for another one. `World.no_lost_lock` says that none of
these ways leaves the lock behind. At every moment the lock that somebody
waits for is held by a task that is not over and that either can take a
step or carries out its program; and at a standstill, when no task can
take a step, the lock is held by a program, and the entry is the current
one of the address the caller wants. So what a caller waits for in the
end is never more than somebody else's program on the same session.

Progress is read off the line at the lock (`World.Sound.head_moves`). That
the entry has not left the cache is read off the program: a call that
carries one out is on the current entry of its address.
-/
import InstrumentBus.Proofs.Registry.Stride

namespace InstrumentBus

/-- A task that stands in a line is not over. -/
theorem Task.StandsIn.not_over {t : Task} {e : EntryId} (h : t.StandsIn e) : t.isOver = false := by
  cases t with
  | call c =>
      obtain ⟨address, program, cancelled, entered, replies, stage⟩ := c
      cases stage <;> first | rfl | rcases h with h | h <;> cases h
  | sweep s =>
      obtain ⟨began, todo, evicted, stage⟩ := s
      cases stage <;> first | rfl | rcases h with h | h <;> cases h
  | disposal d =>
      cases d <;> first | rfl | rcases h with h | h <;> cases h
  | ticker k =>
      cases k <;> first | rfl | rcases h with h | h <;> cases h

namespace World

variable {w w₀ : BusWorld} {id j : TaskId} {t : Task} {c : Call} {e : EntryId} {a : Address}

/-- The lock of an entry is held by a call whose program was started and is
not over, and the entry is the current one of the call's address. -/
structure Occupied (w : BusWorld) (e : EntryId) (j : TaskId) (c : Call) : Prop where
  call : w.call? j = some c
  acting : ∃ pending rest, c.stage = .acting e pending rest
  entered : c.entered.isSome = true
  holder : w.site.registry.holder? e = some j
  current : w.site.registry.current? c.address = some e

/-- A program is carried out on the current entry of its address. -/
theorem Sound.occupied (hw : w.Sound) (hc : w.call? j = some c) {pending : Pending}
    {rest : Program} (hs : c.stage = .acting e pending rest) : w.Occupied e j c := by
  have he : Call.engaged c.stage = some e := by
    rw [hs]
    rfl
  obtain ⟨hcur, s, hslot, -⟩ := hw.engaged hc he
  obtain ⟨at_, hent⟩ := hw.pauses_on hc hs hslot
  refine ⟨hc, ⟨pending, rest, hs⟩, ?_, ?_, hcur⟩
  · rw [hent]
    rfl
  · exact hw.inLine.front j _ e (call?_eq_some.mp hc) (Call.lockHeld_of_engaged he)

/-- Whoever waits for a lock finds it held by a task that is not over, and
that can take a step or carries out its program. -/
theorem Sound.held_up (hw : w.Sound) (ht : w.task? id = some t) (hq : t.queuedOn = some e) :
    ∃ j u, w.site.registry.holder? e = some j ∧ w.task? j = some u ∧ u.StandsIn e ∧
      ((∃ w', w.step? j = some w') ∨ ∃ c, w.Occupied e j c) := by
  have hl : id ∈ w.site.registry.line e := (hw.inLine.stands id e).mpr ⟨t, ht, .inr hq⟩
  obtain ⟨j, hholder, hmoves⟩ := hw.head_moves hl
  have hj : j ∈ w.site.registry.line e := by
    unfold Registry.line
    rw [hholder]
    exact List.mem_cons_self
  obtain ⟨u, hu, hs⟩ := (hw.inLine.stands j e).mp hj
  refine ⟨j, u, hholder, hu, hs, hmoves.imp_right ?_⟩
  rintro ⟨c, pending, rest, hc, hstage⟩
  exact ⟨c, hw.occupied hc hstage⟩

/-- A call that waits for the lock of a current entry wants the address
that the entry is current for. -/
theorem Homed.waits (hm : w.Homed) {c' : Call} (hc : w.call? id = some c')
    (hq : (Task.call c').queuedOn = some e) (hcur : w.site.registry.current? a = some e) :
    a = c'.address := by
  refine hm id c' e a hc ?_ hcur
  obtain ⟨address, program, cancelled, entered, replies, stage⟩ := c'
  cases stage <;> cases hq
  rfl

/-- No lost lock. Wherever a run leads, whoever waits for a lock finds it
held by a task that is not over, and that can take a step or carries out
its program. When no task can take a step, the lock is held by a program
that was started and is not over, and the entry is the current one of the
address that the waiting task wants: for a call its own address, and for
a disposal any address that it can have found the entry under. -/
theorem no_lost_lock {b : Simulated} {options : SessionOptions} {policy : SweepPolicy}
    (hb : 0 ≤ b.nextDescriptor) (hr : (World.unused b options policy).Reaches w)
    (ht : w.task? id = some t) (hq : t.queuedOn = some e) :
    (∃ j u, w.site.registry.holder? e = some j ∧ w.task? j = some u ∧ u.isOver = false ∧
      ((∃ w', w.step? j = some w') ∨ ∃ c, w.Occupied e j c)) ∧
    ((∀ i, w.step? i = none) →
      ∃ j c, w.Occupied e j c ∧ (∀ c', t = .call c' → c.address = c'.address) ∧
        ∀ w₀ a, (World.unused b options policy).Reaches w₀ → w₀.Reaches w →
          w₀.site.registry.current? a = some e → c.address = a) := by
  have hunused := sound_unused hb options policy
  have hw : w.Sound := hr.sound hunused
  obtain ⟨j, u, hholder, hu, hs, hmoves⟩ := hw.held_up ht hq
  refine ⟨⟨j, u, hholder, hu, hs.not_over, hmoves⟩, fun hstill => ?_⟩
  rcases hmoves with ⟨w', hstep⟩ | ⟨c, hocc⟩
  · rw [hstill j] at hstep
    cases hstep
  · refine ⟨j, c, hocc, fun c' hc' => ?_, fun w₀ a hr₀ hr' hcur => ?_⟩
    · subst hc'
      exact (hr.homed hunused (homed_unused b options policy)).waits (call?_eq_some.mpr ht) hq
        hocc.current
    · have hw₀ := hr₀.sound hunused
      have hold := hw₀.current?_old hr' hocc.current (hw₀.coherent.lt a e hcur)
      exact hw₀.coherent.inj _ _ e hold hcur

/-- The two calls of an address, one asleep and one in line, and behind
them a disposal that waits for the sleeper too. -/
def heldUp : List Happening := contended ++ [.dispose] ++ List.replicate 3 (.step 2)

/-- At a standstill the disposal and the second call wait for the first
call's program. -/
theorem no_lost_lock_held_up :
    ∃ w d c, (World.unused .empty .standard .standard).run heldUp = some w ∧
      (∀ i, w.step? i = none) ∧ w.task? 2 = some (.disposal d) ∧
      (Task.disposal d).queuedOn = some 0 ∧ w.Occupied 0 0 c := by
  have hrun : ((World.unused .empty .standard .standard).run heldUp).any (fun w =>
      w.tasks.length == 3 && (List.range 3).all (fun i => (w.step? i).isNone) &&
        (w.disposal? 2).any (fun d => (Task.disposal d).queuedOn == some 0) &&
        w.site.registry.holder? 0 == some 0) = true := by
    decide +kernel
  obtain ⟨w, hw, hall⟩ := (Option.any_eq_true _ _).mp hrun
  simp only [Bool.and_eq_true, beq_iff_eq, List.all_eq_true] at hall
  obtain ⟨⟨⟨hlen, hnone⟩, hdis⟩, hheld⟩ := hall
  obtain ⟨d, hd, hq⟩ := (Option.any_eq_true _ _).mp hdis
  have hstill : ∀ i, w.step? i = none := by
    intro i
    by_cases hi : i < 3
    · exact Option.isNone_iff_eq_none.mp (hnone i (List.mem_range.mpr hi))
    · have htask : w.task? i = none :=
        List.getElem?_eq_none (hlen ▸ Nat.le_of_not_lt hi)
      unfold step?
      rw [htask]
  have ht := disposal?_eq_some.mp hd
  obtain ⟨-, hstands⟩ := no_lost_lock (by decide) ⟨heldUp, hw⟩ ht (beq_iff_eq.mp hq)
  obtain ⟨j, c, hocc, -⟩ := hstands hstill
  have hj := hocc.holder
  rw [hheld] at hj
  cases hj
  exact ⟨w, d, c, hw, hstill, ht, beq_iff_eq.mp hq, hocc⟩

end World

end InstrumentBus
