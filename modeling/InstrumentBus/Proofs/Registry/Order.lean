/-
First come, first served.

The calls of an address are given its session in the order in which they
got in line for it. That a lock serves its queue in order is half of it.
The other half is that there is one queue: an entry may leave the cache
and another one be made for the address, with a lock of its own. In runs
in which tasks change only where they wait, and in which no session is
refused, this happens only to an entry for which nobody waits (`Settled`),
so the line of the current entry is the line of the address.

The order is read off a run. `World.lined` lists the calls of an address
as they get in line, be it that they wait for the lock or take it at once,
and `World.called` lists them as their programs are started; a call that
is over without its program having been started, because it was cancelled,
dropped or refused, is `World.leftOut`. `World.Ledger` is the invariant:
the calls that were lined up and not left out are those that have been
called, in order, followed by those that wait, in order. What a call does
to it comes to five cases (`Call.Course`). Once the registry has been
disposed of nobody is called any more, and the order stays as it is.
-/
import InstrumentBus.Proofs.Registry.Course

namespace InstrumentBus

-- ====================================================== what is read off

namespace World

/-- The call of an address to which something happens, if what it is
before and after is as `p` says. -/
def occasion (p : Call → Call → Bool) (a : Address) (w : BusWorld) (h : Happening)
    (w' : BusWorld) : List TaskId :=
  match h.subject? with
  | some id =>
    if (w.call? id).any fun c => c.address = a ∧ (w'.call? id).any (p c) then [id] else []
  | none => []

/-- The calls of an address to which it happens in a run, in order. -/
def occasions (p : Call → Call → Bool) (a : Address) : BusWorld → List Happening → List TaskId
  | _, [] => []
  | w, h :: rest =>
    match w.perform h with
    | some w' => occasion p a w h w' ++ occasions p a w' rest
    | none => []

/-- The calls of an address, in the order in which they get in line. -/
def lined (w : BusWorld) (a : Address) (hs : List Happening) : List TaskId :=
  w.occasions Call.linesUp a hs

/-- The calls of an address, in the order in which their programs are
started. -/
def called (w : BusWorld) (a : Address) (hs : List Happening) : List TaskId :=
  w.occasions Call.isCalled a hs

/-- A call was dropped, cancelled or refused before its program was
started. -/
def leftOut (w : BusWorld) (id : TaskId) : Bool := (w.call? id).any Call.leftOut

/-- A task is a call of an address that has its program before it. -/
def awaits (w : BusWorld) (a : Address) (id : TaskId) : Bool :=
  (w.call? id).any fun c => c.address = a ∧ c.entered.isNone

/-- The calls that wait in line for the session of an address, in order. -/
def awaiting (w : BusWorld) (a : Address) : List TaskId :=
  match w.site.registry.current? a with
  | some e => (w.site.registry.line e).filter (w.awaits a)
  | none => []

variable {p : Call → Call → Bool} {w w' : BusWorld} {a : Address} {id : TaskId} {c c' : Call}
  {h : Happening} {hs : List Happening}

theorem occasions_concat {w₀ : BusWorld} (hr : w₀.run hs = some w) (hp : w.perform h = some w') :
    w₀.occasions p a (hs ++ [h]) = w₀.occasions p a hs ++ w.occasion p a h w' := by
  induction hs generalizing w₀ with
  | nil =>
      cases hr
      show (match w.perform h with | some w' => _ | none => _) = _
      rw [hp]
      exact List.append_nil _
  | cons h₁ rest ih =>
      obtain ⟨w₁, hp₁, hrest⟩ := Option.bind_eq_some_iff.mp hr
      show (match w₀.perform h₁ with | some w' => _ | none => _) =
        (match w₀.perform h₁ with | some w' => _ | none => _) ++ _
      rw [hp₁]
      show _ ++ w₁.occasions p a (rest ++ [h]) = _
      rw [ih hrest, List.append_assoc]

theorem occasion_of_call (hs : h.subject? = some id) (hc : w.call? id = some c)
    (hc' : w'.call? id = some c') :
    w.occasion p a h w' = if c.address = a ∧ p c c' = true then [id] else [] := by
  unfold occasion
  simp only [hs, hc, hc', Option.any_some, decide_eq_true_eq]

theorem occasion_of_none (hs : h.subject? = some id) (hc : w.call? id = none) :
    w.occasion p a h w' = [] := by
  unfold occasion
  simp only [hs, hc, Option.any_none, Bool.false_eq_true, if_false]

theorem occasion_of_no_subject (hs : h.subject? = none) : w.occasion p a h w' = [] := by
  unfold occasion
  rw [hs]

theorem leftOut_of_call (hc : w.call? id = some c) : w.leftOut id = c.leftOut := by
  unfold leftOut
  rw [hc]
  rfl

theorem awaits_of_call (hc : w.call? id = some c) :
    w.awaits a id = decide (c.address = a ∧ c.entered.isNone = true) := by
  unfold awaits
  rw [hc]
  rfl

theorem awaits_of_none (hc : w.call? id = none) : w.awaits a id = false := by
  unfold awaits
  rw [hc]
  rfl

theorem awaits_congr (hc : w'.call? id = w.call? id) : w'.awaits a id = w.awaits a id := by
  unfold awaits
  rw [hc]

end World

-- ========================================================= the invariant

namespace World

variable {a : Address} {w w' : BusWorld} {id : TaskId} {c c' : Call} {e : EntryId} {h : Happening}
  {J S : List TaskId}

theorem awaiting_of_current (hcur : w.site.registry.current? a = some e) :
    w.awaiting a = (w.site.registry.line e).filter (w.awaits a) := by
  unfold awaiting
  rw [hcur]

theorem awaiting_of_none (hcur : w.site.registry.current? a = none) : w.awaiting a = [] := by
  unfold awaiting
  rw [hcur]

/-- What is done to the lines is done to that of the address, for where the
current entry is another one nobody waits. -/
theorem Recurs.awaiting (hr : Recurs w w' id a) (g : List TaskId → List TaskId) (hg : g [] = [])
    (hline : ∀ e, (w'.site.registry.line e).filter (w'.awaits a) =
      g ((w.site.registry.line e).filter (w.awaits a))) :
    w'.awaiting a = g (w.awaiting a) := by
  cases hr with
  | same h =>
      cases hcur : w.site.registry.current? a with
      | none => rw [awaiting_of_none hcur, awaiting_of_none (h.trans hcur), hg]
      | some e => rw [awaiting_of_current hcur, awaiting_of_current (h.trans hcur), hline]
  | made c hc hs hnone hcur =>
      have hempty : w.site.registry.line w.site.registry.entries.length = [] := by
        refine List.eq_nil_iff_forall_not_mem.mpr fun j hj => ?_
        exact Nat.lt_irrefl _ (Registry.lt_of_mem_line hj)
      rw [awaiting_of_none hnone, awaiting_of_current hcur, hline, hempty, List.filter_nil]
  | unlinked e hc hcur hl hnone =>
      rw [awaiting_of_none hnone, awaiting_of_current hcur, hl,
        List.filter_cons_of_neg (by simp [awaits_of_none hc]), List.filter_nil, hg]

/-- What the lists of a run are: the calls of an address that have got in
line, and those that have been called. -/
structure Ledger (a : Address) (w : BusWorld) (J S : List TaskId) : Prop where
  -- no call gets in line twice
  once : J.Nodup
  past : ∀ j ∈ J, ∃ c, w.call? j = some c ∧ c.address = a ∧ Call.asks c.stage = true
  entered : ∀ j ∈ S, ∃ c, w.call? j = some c ∧ c.entered ≠ none
  -- the calls that have been called are the first of those not left out
  ahead : S <+: J.filter (!w.leftOut ·)
  -- and as long as the registry is in use, the others wait in that order
  rest : w.site.registry.disposed = false → J.filter (!w.leftOut ·) = S ++ w.awaiting a

/-- The lists are right if they are right about those that wait. -/
theorem Ledger.of_rest (once : J.Nodup)
    (past : ∀ j ∈ J, ∃ c, w.call? j = some c ∧ c.address = a ∧ Call.asks c.stage = true)
    (entered : ∀ j ∈ S, ∃ c, w.call? j = some c ∧ c.entered ≠ none)
    (rest : J.filter (!w.leftOut ·) = S ++ w.awaiting a) : Ledger a w J S :=
  ⟨once, past, entered, ⟨_, rest.symm⟩, fun _ => rest⟩

namespace Ledger

theorem mem_lined (hl : Ledger a w J S) {j : TaskId} (hj : j ∈ S) : j ∈ J :=
  (List.mem_filter.mp (hl.ahead.subset hj)).1

/-- Something happens that does not concern the calls of the address. -/
theorem aside (hl : Ledger a w J S)
    (hcalls : ∀ j c, w.call? j = some c → c.address = a → w'.call? j = some c)
    (hd : w'.site.registry.disposed = false → w.site.registry.disposed = false)
    (haw : w'.site.registry.disposed = false → w'.awaiting a = w.awaiting a) :
    Ledger a w' J S := by
  have hfilter : J.filter (!w'.leftOut ·) = J.filter (!w.leftOut ·) := by
    refine List.filter_congr fun j hj => ?_
    obtain ⟨c, hc, ha, -⟩ := hl.past j hj
    rw [leftOut_of_call hc, leftOut_of_call (hcalls j c hc ha)]
  refine ⟨hl.once, ?_, ?_, ?_, ?_⟩
  · intro j hj
    obtain ⟨c, hc, ha, hasks⟩ := hl.past j hj
    exact ⟨c, hcalls j c hc ha, ha, hasks⟩
  · intro j hj
    obtain ⟨c, hc, ha, -⟩ := hl.past j (hl.mem_lined hj)
    obtain ⟨c₁, hc₁, he⟩ := hl.entered j hj
    cases hc.symm.trans hc₁
    exact ⟨c, hcalls j c hc ha, he⟩
  · rw [hfilter]
    exact hl.ahead
  · intro hd'
    rw [hfilter, haw hd']
    exact hl.rest (hd hd')

/-- Something happens once the registry has been disposed of. -/
theorem closed (hl : Ledger a w J S) (hd : w'.site.registry.disposed = true)
    (hcalls : ∀ j c, w.call? j = some c → ∃ c', w'.call? j = some c' ∧ c.Ages c') :
    Ledger a w' J S := by
  refine ⟨hl.once, ?_, ?_, ?_, fun hno => absurd (hno.symm.trans hd) Bool.false_ne_true⟩
  · intro j hj
    obtain ⟨c, hc, ha, hasks⟩ := hl.past j hj
    obtain ⟨c', hc', hages⟩ := hcalls j c hc
    exact ⟨c', hc', hages.address.trans ha, hages.asks hasks⟩
  · intro j hj
    obtain ⟨c, hc, he⟩ := hl.entered j hj
    obtain ⟨c', hc', hages⟩ := hcalls j c hc
    exact ⟨c', hc', fun hno => he (hages.entered.symm.trans hno)⟩
  · refine prefix_filter hl.ahead ?_ ?_
    · intro j hj
      obtain ⟨c, hc, he⟩ := hl.entered j hj
      obtain ⟨c', hc', hages⟩ := hcalls j c hc
      rw [leftOut_of_call hc', Call.leftOut_of_entered (hages.entered ▸ he)]
      rfl
    · intro j hj hstay
      obtain ⟨c, hc, -⟩ := hl.past j hj
      obtain ⟨c', hc', hages⟩ := hcalls j c hc
      rw [leftOut_of_call hc'] at hstay
      rw [leftOut_of_call hc]
      cases hleft : c.leftOut with
      | false => rfl
      | true =>
          rw [hages.leftOut hleft] at hstay
          cases hstay

end Ledger

end World

-- ================================================= a call of the address

namespace World

variable {a : Address} {w w' : BusWorld} {id : TaskId} {c c' : Call} {e : EntryId} {h : Happening}
  {J S : List TaskId}

/-- A call of an address goes from one stage to another, the registry being
in use. -/
structure Passes (a : Address) (id : TaskId) (c c' : Call) (w w' : BusWorld) : Prop where
  before : w.call? id = some c
  after : w'.call? id = some c'
  address : c.address = a
  address' : c'.address = a
  others : ∀ j, j ≠ id → w'.call? j = w.call? j
  stands : ∀ e, id ∈ w.site.registry.line e ↔ (Task.call c).StandsIn e
  once : ∀ e, (w.site.registry.line e).Nodup
  reline : ∀ e, Reline id (.call c) (.call c') e (w.site.registry.line e) (w'.site.registry.line e)
  recurs : Recurs w w' id a
  inUse : w.site.registry.disposed = false
  -- the entry it has looked up is the current one
  settled : ∀ e, Call.entry? c.stage = some e → w.site.registry.current? a = some e

namespace Passes

theorem leftOut_other (g : Passes a id c c' w w') {j : TaskId} (hj : j ≠ id) :
    w'.leftOut j = w.leftOut j := by
  unfold leftOut
  rw [g.others j hj]

theorem awaits_other (g : Passes a id c c' w w') (j : TaskId) (hj : j ≠ id) :
    w'.awaits a j = w.awaits a j := awaits_congr (g.others j hj)

theorem awaits_before (g : Passes a id c c' w w') : w.awaits a id = c.entered.isNone := by
  rw [awaits_of_call g.before]
  simp only [g.address, true_and]
  cases c.entered <;> rfl

theorem awaits_after (g : Passes a id c c' w w') : w'.awaits a id = c'.entered.isNone := by
  rw [awaits_of_call g.after]
  simp only [g.address', true_and]
  cases c'.entered <;> rfl

/-- The calls that have got in line are still past asking. -/
theorem past (g : Passes a id c c' w w') (hl : Ledger a w J S)
    (hasks : Call.asks c.stage = true → Call.asks c'.stage = true) :
    ∀ j ∈ J, ∃ c, w'.call? j = some c ∧ c.address = a ∧ Call.asks c.stage = true := by
  intro j hj
  obtain ⟨c₁, hc₁, ha, hp⟩ := hl.past j hj
  by_cases hji : j = id
  · subst hji
    cases g.before.symm.trans hc₁
    exact ⟨c', g.after, g.address', hasks hp⟩
  · exact ⟨c₁, (g.others j hji).trans hc₁, ha, hp⟩

/-- The calls that have been called still have been. -/
theorem entered (g : Passes a id c c' w w') (hl : Ledger a w J S)
    (he : c.entered ≠ none → c'.entered ≠ none) :
    ∀ j ∈ S, ∃ c, w'.call? j = some c ∧ c.entered ≠ none := by
  intro j hj
  obtain ⟨c₁, hc₁, hent⟩ := hl.entered j hj
  by_cases hji : j = id
  · subst hji
    cases g.before.symm.trans hc₁
    exact ⟨c', g.after, he hent⟩
  · exact ⟨c₁, (g.others j hji).trans hc₁, hent⟩

/-- Nobody but the call may be left out by what happens. -/
theorem filter_same (g : Passes a id c c' w w') (hl : c'.leftOut = c.leftOut) :
    J.filter (!w'.leftOut ·) = J.filter (!w.leftOut ·) := by
  refine List.filter_congr fun j _ => ?_
  by_cases hji : j = id
  · rw [hji, leftOut_of_call g.after, leftOut_of_call g.before, hl]
  · rw [g.leftOut_other hji]

/-- The entry of a call that has one is the current one, before and
after. -/
theorem current (g : Passes a id c c' w w') (he : Call.entry? c.stage = some e) :
    w.site.registry.current? a = some e ∧ w'.site.registry.current? a = some e := by
  have hcur := g.settled e he
  refine ⟨hcur, ?_⟩
  cases g.recurs with
  | same h => exact h.trans hcur
  | made c₁ hc₁ hs hnone => cases hnone.symm.trans hcur
  | unlinked e' hc₁ => cases hc₁.symm.trans g.before

/-- It stays where it stands. -/
theorem stays (g : Passes a id c c' w w') (hl : Ledger a w J S)
    (ha : Call.asks c.stage = true → Call.asks c'.stage = true) (he : c'.entered = c.entered)
    (hleft : c'.leftOut = c.leftOut)
    (hs : ∀ e, (Task.call c').StandsIn e ↔ (Task.call c).StandsIn e) : Ledger a w' J S := by
  have haw : w'.awaiting a = w.awaiting a := by
    refine g.recurs.awaiting (fun l => l) rfl fun e => ?_
    rw [(g.reline e).eq_of_same (g.stands e) (hs e)]
    refine List.filter_congr fun j _ => ?_
    by_cases hji : j = id
    · rw [hji, g.awaits_after, g.awaits_before, he]
    · exact g.awaits_other j hji
  refine .of_rest hl.once (g.past hl ha) (g.entered hl fun hne => he ▸ hne) ?_
  rw [g.filter_same hleft, haw]
  exact hl.rest g.inUse

/-- It gets in line, behind all that wait. -/
theorem lines (g : Passes a id c c' w w') (hl : Ledger a w J S) (hs : c.stage = .request e)
    (hn : c.entered = none) (he : c'.entered = none)
    (hs' : c'.stage = .queued e ∨ c'.stage = .recheck e) : Ledger a w' (J ++ [id]) S := by
  obtain ⟨hcur, hcur'⟩ := g.current (e := e) (by rw [hs]; rfl)
  have hno : ¬ (Task.call c).StandsIn e := by
    rw [Call.standsIn_iff, hs]
    exact fun h => nomatch h.1
  have hline' : Call.inLine c'.stage = true ∧ Call.entry? c'.stage = some e ∧
      Call.asks c'.stage = true := by
    rcases hs' with hs' | hs' <;> rw [hs'] <;> exact ⟨rfl, rfl, rfl⟩
  obtain ⟨hinLine, hentry, hasks⟩ := hline'
  have hleft : c'.leftOut = c.leftOut := by
    rw [Call.leftOut_of_inLine hinLine]
    unfold Call.leftOut
    rw [hs]
    exact (Bool.and_false _).symm
  have hnew : id ∉ J := by
    intro hmem
    obtain ⟨c₁, hc₁, -, hp⟩ := hl.past id hmem
    cases g.before.symm.trans hc₁
    rw [hs] at hp
    cases hp
  have haw : w'.awaiting a = w.awaiting a ++ [id] := by
    have hin : id ∉ w.site.registry.line e := fun hmem => hno ((g.stands e).mp hmem)
    rw [awaiting_of_current hcur, awaiting_of_current hcur',
      (g.reline e).eq_of_joins hno (Call.standsIn_iff.mpr ⟨hinLine, hentry⟩),
      List.filter_append, List.filter_cons_of_pos (by rw [g.awaits_after, he]; rfl),
      List.filter_nil]
    congr 1
    refine List.filter_congr fun j hj => g.awaits_other j ?_
    rintro rfl
    exact hin hj
  refine .of_rest ?_ ?_ (g.entered hl fun hne => absurd hn hne) ?_
  · refine List.nodup_append.mpr ⟨hl.once, List.nodup_cons.mpr ⟨nofun, .nil⟩, ?_⟩
    rintro i hi j hj rfl
    cases List.mem_singleton.mp hj
    exact hnew hi
  · intro j hj
    rcases List.mem_append.mp hj with hj | hj
    · exact g.past hl (fun _ => hasks) j hj
    · cases List.mem_singleton.mp hj
      exact ⟨c', g.after, g.address', hasks⟩
  · have hkept : [id].filter (!w'.leftOut ·) = [id] := by
      refine List.filter_eq_self.mpr fun j hj => ?_
      rw [List.mem_singleton.mp hj, leftOut_of_call g.after, Call.leftOut_of_inLine hinLine]
      rfl
    rw [List.filter_append, hkept, g.filter_same hleft, hl.rest g.inUse, haw, List.append_assoc]

/-- It is called: it stands at the head of the line. -/
theorem starts (g : Passes a id c c' w w') (hl : Ledger a w J S)
    (hhead : w.site.registry.holder? e = some id) (hs : c.stage = .enter e)
    (hn : c.entered = none) (he : c'.entered ≠ none) (hs' : Call.lockHeld c'.stage = some e)
    (ha : Call.asks c'.stage = true) : Ledger a w' J (S ++ [id]) := by
  obtain ⟨hcur, hcur'⟩ := g.current (e := e) (by rw [hs]; rfl)
  have hstands : (Task.call c').StandsIn e ↔ (Task.call c).StandsIn e := by
    refine ⟨fun _ => .inl ?_, fun _ => .inl hs'⟩
    show Call.lockHeld c.stage = some e
    rw [hs]
    rfl
  have hleft : c'.leftOut = c.leftOut := by
    rw [Call.leftOut_of_entered he, Call.leftOut_of_inLine]
    rw [hs]
    rfl
  have haw : w.awaiting a = id :: w'.awaiting a := by
    have hline : w.site.registry.line e = id :: w.site.registry.waiting e := by
      unfold Registry.line
      rw [hhead]
      rfl
    have honce := g.once e
    rw [hline, List.nodup_cons] at honce
    obtain ⟨p, hp⟩ := Option.ne_none_iff_exists'.mp he
    rw [awaiting_of_current hcur, awaiting_of_current hcur',
      (g.reline e).eq_of_same (g.stands e) hstands, hline,
      List.filter_cons_of_pos (by rw [g.awaits_before, hn]; rfl),
      List.filter_cons_of_neg (by rw [g.awaits_after, hp]; nofun)]
    congr 1
    refine List.filter_congr fun j hj => (g.awaits_other j ?_).symm
    rintro rfl
    exact honce.1 hj
  refine .of_rest hl.once (g.past hl fun _ => ha) ?_ ?_
  · intro j hj
    rcases List.mem_append.mp hj with hj | hj
    · exact g.entered hl (fun _ => he) j hj
    · cases List.mem_singleton.mp hj
      exact ⟨c', g.after, he⟩
  · rw [g.filter_same hleft, hl.rest g.inUse, haw, List.append_assoc, List.singleton_append]

/-- It leaves the line and has been called. -/
theorem leaves (g : Passes a id c c' w w') (hl : Ledger a w J S) (he : c.entered ≠ none)
    (he' : c'.entered = c.entered) (ha : Call.asks c'.stage = true) : Ledger a w' J S := by
  obtain ⟨p, hp⟩ := Option.ne_none_iff_exists'.mp he
  have haw : w'.awaiting a = w.awaiting a := by
    refine g.recurs.awaiting (fun l => l) rfl fun e => ?_
    refine (g.reline e).filter_eq (fun _ => ?_) (fun _ => ?_) g.awaits_other
    · rw [g.awaits_before, hp]
      rfl
    · rw [g.awaits_after, he', hp]
      rfl
  have hleft : c'.leftOut = c.leftOut := by
    rw [Call.leftOut_of_entered he, Call.leftOut_of_entered (he' ▸ he)]
  refine .of_rest hl.once (g.past hl fun _ => ha) (g.entered hl fun hne => he' ▸ hne) ?_
  rw [g.filter_same hleft, haw]
  exact hl.rest g.inUse

/-- It leaves the line, if it stood there, and is left out. -/
theorem givesUp (g : Passes a id c c' w w') (hl : Ledger a w J S) (hn : c.entered = none)
    (ha : Call.asks c'.stage = true) (hs' : Call.inLine c'.stage = false)
    (hleft : c'.leftOut = true) : Ledger a w' J S := by
  have hno : ∀ e, ¬ (Task.call c').StandsIn e := by
    intro e
    rw [Call.standsIn_iff, hs']
    exact fun h => nomatch h.1
  have haw : w'.awaiting a = (w.awaiting a).filter (· ≠ id) := by
    refine g.recurs.awaiting (fun l => l.filter (· ≠ id)) rfl fun e => ?_
    exact (g.reline e).filter_gone (g.stands e) (hno e) g.awaits_other
  have hfilter : J.filter (!w'.leftOut ·) = (J.filter (!w.leftOut ·)).filter (· ≠ id) := by
    rw [List.filter_filter]
    refine List.filter_congr fun j _ => ?_
    by_cases hji : j = id
    · subst hji
      rw [leftOut_of_call g.after, hleft]
      simp
    · rw [g.leftOut_other hji]
      simp [hji]
  have hcalled : S.filter (· ≠ id) = S := by
    refine List.filter_eq_self.mpr fun j hj => decide_eq_true ?_
    rintro rfl
    obtain ⟨c₁, hc₁, hent⟩ := hl.entered j hj
    cases g.before.symm.trans hc₁
    exact hent hn
  refine .of_rest hl.once (g.past hl fun _ => ha) (g.entered hl fun hne => absurd hn hne) ?_
  rw [hfilter, hl.rest g.inUse, List.filter_append, hcalled, haw]

end Passes

end World

-- ======================================================== what happens

namespace World

variable {a : Address} {w w' v : BusWorld} {id : TaskId} {c c' : Call} {e : EntryId}
  {h : Happening} {J S : List TaskId}

theorem occasion_of_not {p : Call → Call → Bool} (hs : h.subject? = some id)
    (hc : w.call? id = some c) (hc' : w'.call? id = some c') (hp : p c c' = false) :
    w.occasion p a h w' = [] := by
  rw [occasion_of_call hs hc hc', hp]
  exact if_neg fun h => nomatch h.2

theorem occasion_of {p : Call → Call → Bool} (hs : h.subject? = some id)
    (hc : w.call? id = some c) (hc' : w'.call? id = some c') (ha : c.address = a)
    (hp : p c c' = true) : w.occasion p a h w' = [id] := by
  rw [occasion_of_call hs hc hc', if_pos ⟨ha, hp⟩]

/-- The lists of a run after something has happened. -/
abbrev Ledger.Goes (a : Address) (w : BusWorld) (h : Happening) (w' : BusWorld)
    (J S : List TaskId) : Prop :=
  Ledger a w' (J ++ w.occasion Call.linesUp a h w') (S ++ w.occasion Call.isCalled a h w')

theorem Ledger.goes_nil (hl : Ledger a w' J S) (hj : w.occasion Call.linesUp a h w' = [])
    (hs : w.occasion Call.isCalled a h w' = []) : Ledger.Goes a w h w' J S := by
  unfold Ledger.Goes
  rw [hj, hs, List.append_nil, List.append_nil]
  exact hl

/-- A call of the address goes on, and the registry is in use. -/
theorem Passes.goes (g : Passes a id c c' w w') (hl : Ledger a w J S) (hc : c.Course c')
    (hsub : h.subject? = some id)
    (hfront : ∀ e, Call.lockHeld c.stage = some e → w.site.registry.holder? e = some id) :
    Ledger.Goes a w h w' J S := by
  cases hc with
  | stays ha he hleft hs =>
      refine (g.stays hl ha he hleft hs).goes_nil ?_ ?_
      · exact occasion_of_not hsub g.before g.after (Call.linesUp_of_eq (Call.inLine_congr hs))
      · exact occasion_of_not hsub g.before g.after (Call.isCalled_of_eq he)
  | lines e hs hn he hs' =>
      unfold Ledger.Goes
      rw [occasion_of hsub g.before g.after g.address,
        occasion_of_not hsub g.before g.after (Call.isCalled_of_eq (he.trans hn.symm)),
        List.append_nil]
      · exact g.lines hl hs hn he hs'
      · unfold Call.linesUp
        rw [hs]
        rcases hs' with hs' | hs' <;> rw [hs'] <;> rfl
  | starts e hs hn he hs' =>
      unfold Ledger.Goes
      rw [occasion_of_not hsub g.before g.after, occasion_of hsub g.before g.after g.address,
        List.append_nil]
      · exact g.starts hl (hfront e (by rw [hs]; rfl)) hs hn he hs' (Call.asks_of_lockHeld hs')
      · unfold Call.isCalled
        rw [hn]
        exact Option.isSome_iff_ne_none.mpr he
      · unfold Call.linesUp
        rw [hs]
        rfl
  | leaves he he' ha hs' =>
      refine (g.leaves hl he he' ha).goes_nil ?_ ?_
      · refine occasion_of_not hsub g.before g.after ?_
        unfold Call.linesUp
        rw [hs', Bool.and_false]
      · exact occasion_of_not hsub g.before g.after (Call.isCalled_of_eq he')
  | givesUp hn he ha hs' hleft =>
      refine (g.givesUp hl hn ha hs' hleft).goes_nil ?_ ?_
      · refine occasion_of_not hsub g.before g.after ?_
        unfold Call.linesUp
        rw [hs', Bool.and_false]
      · exact occasion_of_not hsub g.before g.after (Call.isCalled_of_eq (he.trans hn.symm))

namespace Ledger

/-- Something happens to a task that is not a call of the address. -/
theorem goes_past {t : Task} (hl : Ledger a w J S) (hw : w.Sound) (hp : w.perform h = some w')
    (hsub : h.subject? = some id) (ht : w.task? id = some t)
    (hrecurs : w'.site.registry.disposed = false → Recurs w w' id a)
    (hno : w.awaits a id = false) (hno' : w'.awaits a id = false)
    (hcalls : ∀ c, w.call? id = some c → c.address ≠ a) : Ledger.Goes a w h w' J S := by
  have hnone : ∀ p, w.occasion p a h w' = [] := by
    intro p
    cases hc : w.call? id with
    | none => exact occasion_of_none hsub hc
    | some c =>
        unfold occasion
        simp only [hsub, hc, Option.any_some, hcalls c hc, false_and, decide_false,
          Bool.false_eq_true, if_false]
  refine (hl.aside ?_ ((Reaches.perform hp).inUse hw) fun hd => ?_).goes_nil (hnone _) (hnone _)
  · intro j c hc ha
    refine (call?_other hsub hp ?_).trans hc
    rintro rfl
    exact hcalls c hc ha
  · obtain ⟨t', ht', hline⟩ := hw.reline hsub ht hp
    refine (hrecurs hd).awaiting (fun l => l) rfl fun e => ?_
    exact (hline e).filter_eq (fun _ => hno) (fun _ => hno') fun j hj =>
      awaits_congr (call?_other hsub hp hj)

/-- Something happens to a call. -/
theorem goes_call (hl : Ledger a w J S) (hw : w.Sound) (hset : w.Settled)
    (hp : w.perform h = some w') (hsub : h.subject? = some id) (hc : w.call? id = some c)
    (hc' : w'.call? id = some c') (haddr : c'.address = c.address)
    (hrecurs : w'.site.registry.disposed = false → Recurs w w' id a)
    (hcourse : w'.site.registry.disposed = false → c.Course c')
    (hages : w'.site.registry.disposed = true → c.Ages c') : Ledger.Goes a w h w' J S := by
  have ht := call?_eq_some.mp hc
  by_cases ha : c.address = a
  · cases hd : w'.site.registry.disposed with
    | true =>
        refine (hl.closed hd fun j c₁ hc₁ => ?_).goes_nil ?_ ?_
        · by_cases hj : j = id
          · subst hj
            cases hc.symm.trans hc₁
            exact ⟨c', hc', hages hd⟩
          · exact ⟨c₁, (call?_other hsub hp hj).trans hc₁, .refl c₁⟩
        · exact occasion_of_not hsub hc hc' (hages hd).outside
        · exact occasion_of_not hsub hc hc' (Call.isCalled_of_eq (hages hd).entered)
    | false =>
        have hd₀ := (Reaches.perform hp).inUse hw hd
        obtain ⟨t', ht', hline⟩ := hw.reline hsub ht hp
        cases (call?_eq_some.mp hc').symm.trans ht'
        have hstands : ∀ e, id ∈ w.site.registry.line e ↔ (Task.call c).StandsIn e := by
          intro e
          rw [hw.inLine.stands, ht]
          exact ⟨fun ⟨_, hu, hs⟩ => Option.some.inj hu ▸ hs, fun hs => ⟨_, rfl, hs⟩⟩
        have hpasses : Passes a id c c' w w' :=
          { before := hc
            after := hc'
            address := ha
            address' := haddr.trans ha
            others := fun j hj => call?_other hsub hp hj
            stands := hstands
            once := hw.inLine.once
            reline := hline
            recurs := hrecurs hd
            inUse := hd₀
            settled := fun e he => ha ▸ hset hd₀ id c e hc he }
        exact hpasses.goes hl (hcourse hd) hsub fun e he => hw.inLine.front id _ e ht he
  · have hno : ∀ {v : BusWorld} {c₁ : Call}, v.call? id = some c₁ → c₁.address = c.address →
        v.awaits a id = false := by
      intro v c₁ hv hsame
      rw [awaits_of_call hv]
      refine decide_eq_false ?_
      rintro ⟨heq, -⟩
      exact ha (hsame.symm.trans heq)
    refine hl.goes_past hw hp hsub ht hrecurs (hno hc rfl) (hno hc' haddr) fun c₁ hc₁ => ?_
    cases hc.symm.trans hc₁
    exact ha

/-- A step of a turn. -/
theorem step (hl : Ledger a w J S) (hm : w.Midway id) (hw : w.Sound) (hu : w.Unstarted)
    (hp : w.step? id = some w')
    (hg : ∀ f, Call.Deed.asked (.error f) ∉ w.deedsIn id (.step id) w') :
    Ledger.Goes a w (.step id) w' J S := by
  have hperform : w.perform (.step id) = some w' := hp
  cases hc : w.call? id with
  | none =>
      obtain ⟨t, t', x', ht, -⟩ := step?_eq_some hp
      have hc' : w'.call? id = none := by
        refine Option.eq_none_iff_forall_ne_some.mpr fun c' hc' => ?_
        obtain ⟨c, hcall, -⟩ := call_of_step hw hp hc'
        cases hc.symm.trans hcall
      refine hl.goes_past hw hperform rfl ht (fun hd => hm.recurs hw hp hd a) (awaits_of_none hc)
        (awaits_of_none hc') ?_
      intro c hcall
      cases hc.symm.trans hcall
  | some c =>
      obtain ⟨c', -, hc'⟩ := step?_call_eq_some hc hp
      obtain ⟨c₁, hc₁, hst, hdeeds⟩ := call_of_step hw hp hc'
      cases hc.symm.trans hc₁
      refine hl.goes_call hw hm.settled hperform rfl hc hc' hst.address
        (fun hd => hm.recurs hw hp hd a) (fun hd => ?_) (fun hd => ?_)
      · have hd₀ := (Reaches.perform hperform).inUse hw hd
        refine hst.course (hm.steady hd₀ c hc) hd₀ (hm.settled hd₀ id c · hc) (hu id c hc) ?_
        rw [← hdeeds]
        exact hg
      · have hd₀ : w.site.registry.disposed = true := hst.disposed.symm.trans hd
        exact hst.ages hd₀ (hm.shut hd₀ c hc)

/-- Something happens that concerns no task. -/
theorem goes_beside (hl : Ledger a w J S) (hw : w.Sound) (hne : ∀ id, h ≠ .step id)
    (hno : ∀ id, h.subject? = some id → w.task? id = none) (hp : w.perform h = some w') :
    Ledger.Goes a w h w' J S := by
  have hnone : ∀ p, w.occasion p a h w' = [] := by
    intro p
    cases hsub : h.subject? with
    | none => exact occasion_of_no_subject hsub
    | some id =>
        refine occasion_of_none hsub ?_
        unfold call?
        rw [hno id hsub]
  have hline : ∀ e, w'.site.registry.line e = w.site.registry.line e := by
    intro e
    cases hw.perform_change hp with
    | task id t t' hid ht => cases (hno id hid).symm.trans ht
    | begun t hf hw hb hr => exact Registry.line_congr (hr.locks e)
    | beside hw hl ht hr => rw [hr]
  have htask : ∀ j t, w.task? j = some t → w'.task? j = some t := by
    intro j t ht
    refine (hw.perform_change hp).untouched (fun hsub => ?_) ht
    cases (hno j hsub).symm.trans ht
  refine (hl.aside ?_ ((Reaches.perform hp).inUse hw) fun _ => ?_).goes_nil (hnone _) (hnone _)
  · intro j c hc _
    exact call?_eq_some.mpr (htask j _ (call?_eq_some.mp hc))
  · have hrecurs : Recurs w w' 0 a := .same (congrArg (Keyed.get? · a) (perform_quiet hp hne).1)
    refine hrecurs.awaiting (fun l => l) rfl fun e => ?_
    rw [hline]
    refine List.filter_congr fun j hj => awaits_congr ?_
    obtain ⟨t, ht, -⟩ := (hw.inLine.stands j e).mp hj
    unfold call?
    rw [htask j t ht, ht]

/-- Whatever happens at rest other than a step. -/
theorem perform (hl : Ledger a w J S) (hset : w.Settled) (hw : w.Sound)
    (hne : ∀ id, h ≠ .step id) (hp : w.perform h = some w') : Ledger.Goes a w h w' J S := by
  have hrecurs : ∀ id, Recurs w w' id a := fun id =>
    .same (congrArg (Keyed.get? · a) (perform_quiet hp hne).1)
  cases hsub : h.subject? with
  | none =>
      refine hl.goes_beside hw hne (fun id hid => ?_) hp
      cases hsub.symm.trans hid
  | some id =>
      cases ht : w.task? id with
      | none =>
          refine hl.goes_beside hw hne (fun j hj => ?_) hp
          cases hsub.symm.trans hj
          exact ht
      | some t =>
          cases hc : w.call? id with
          | none =>
              have hc' : w'.call? id = none := by
                refine Option.eq_none_iff_forall_ne_some.mpr fun c' hc' => ?_
                rcases (hw.perform_change hp).came hc' with ⟨hnone, -⟩ | ⟨c, hcall⟩
                · cases hnone.symm.trans ht
                · cases hc.symm.trans hcall
              refine hl.goes_past hw hp hsub ht (fun _ => hrecurs id) (awaits_of_none hc)
                (awaits_of_none hc') fun c hcall => ?_
              cases hc.symm.trans hcall
          | some c =>
              cases hw.fate hc hp with
              | steps c' hs hc' => exact absurd rfl (hne id)
              | cancelled hx hc' =>
                  exact hl.goes_call hw hset hp hsub hc hc' rfl (fun _ => hrecurs id)
                    (fun _ => c.cancel_course) (fun _ => c.cancel_ages)
              | dropped hx hc' =>
                  exact hl.goes_call hw hset hp hsub hc hc' (c.drop_ages id w.site).address
                    (fun _ => hrecurs id) (fun _ => Call.drop_course id c w.site)
                    (fun _ => c.drop_ages id w.site)
              | stays hh hc' => exact absurd hsub hh

end Ledger

-- =========================================== first come, first served

/-- No session is refused to anybody in a run. -/
def Unrefused (w : BusWorld) (hs : List Happening) : Prop :=
  ∀ id f, Call.Deed.asked (.error f) ∉ w.deeds id hs

theorem Unrefused.of_concat {w₀ : BusWorld} {hs : List Happening}
    (hg : w₀.Unrefused (hs ++ [h])) (hr : w₀.run hs = some w) (hp : w.perform h = some w') :
    w₀.Unrefused hs ∧ ∀ id f, Call.Deed.asked (.error f) ∉ w.deedsIn id h w' := by
  have hsplit : ∀ id, w₀.deeds id (hs ++ [h]) = w₀.deeds id hs ++ w.deedsIn id h w' := by
    intro id
    rw [deeds_append hr, deeds_cons hp]
    exact congrArg _ (List.append_nil _)
  refine ⟨fun id f hmem => hg id f ?_, fun id f hmem => hg id f ?_⟩
  · rw [hsplit]
    exact List.mem_append_left _ hmem
  · rw [hsplit]
    exact List.mem_append_right _ hmem

/-- The lists of a run, wherever it may lead. -/
theorem Turns.ledger {w₀ : BusWorld} {hs : List Happening} (ht : w₀.Turns hs w)
    (hg : w₀.Unrefused hs) (hw₀ : w₀.Sound) (hu₀ : w₀.Unstarted) (ha₀ : w₀.AtRest)
    (hs₀ : w₀.Settled) (hl₀ : Ledger a w₀ [] []) :
    Ledger a w (w₀.lined a hs) (w₀.called a hs) := by
  have hlists : ∀ {v v' : BusWorld} {hs : List Happening} {h : Happening}, w₀.run hs = some v →
      v.perform h = some v' → Ledger.Goes a v h v' (w₀.lined a hs) (w₀.called a hs) →
      Ledger a v' (w₀.lined a (hs ++ [h])) (w₀.called a (hs ++ [h])) := by
    intro v v' hs h hr hp hgoes
    unfold lined called
    rw [occasions_concat hr hp, occasions_concat hr hp]
    exact hgoes
  have hall : w.AtRest ∧ (w₀.Unrefused hs → w.Settled ∧
      Ledger a w (w₀.lined a hs) (w₀.called a hs)) := by
    refine Turns.induct
      (P := fun v hs => v.AtRest ∧ (w₀.Unrefused hs → v.Settled ∧
        Ledger a v (w₀.lined a hs) (w₀.called a hs)))
      (Q := fun id v hs => w₀.Unrefused hs → v.Midway id ∧
        Ledger a v (w₀.lined a hs) (w₀.called a hs)) ?_ ?_ ?_ ?_ ha₀ ?_ ht
    · intro id v hs ⟨hat, hv⟩ hg
      obtain ⟨hset, hl⟩ := hv hg
      exact ⟨hset.midway hat id, hl⟩
    · intro id v v' hs hr hat hv hp hg
      have hsound : v.Sound := Reaches.sound ⟨hs, hr⟩ hw₀
      obtain ⟨hg₀, hstep⟩ := hg.of_concat (h := .step id) hr hp
      obtain ⟨hm, hl⟩ := hv hg₀
      refine ⟨hm.step hsound hp (hstep id), hlists (h := .step id) hr hp ?_⟩
      exact hl.step hm hsound (hu₀.reaches ⟨hs, hr⟩) hp (hstep id)
    · intro id v hs hat hv
      refine ⟨hat, fun hg => ?_⟩
      obtain ⟨hm, hl⟩ := hv hg
      exact ⟨hm.settled, hl⟩
    · intro v h v' hs hr hat hv hne hp
      refine ⟨hat.perform hne hp, fun hg => ?_⟩
      have hsound : v.Sound := Reaches.sound ⟨hs, hr⟩ hw₀
      obtain ⟨hset, hl⟩ := hv.2 (hg.of_concat hr hp).1
      exact ⟨hset.perform hsound hne hp, hlists hr hp (hl.perform hset hsound hne hp)⟩
    · exact ⟨ha₀, fun _ => ⟨hs₀, hl₀⟩⟩
  exact (hall.2 hg).2

theorem ledger_unused (b : Simulated) (options : SessionOptions) (policy : SweepPolicy)
    (a : Address) : Ledger a (World.unused b options policy) [] [] :=
  .of_rest .nil (fun _ hj => nomatch hj) (fun _ hj => nomatch hj) rfl

/-- The programs on an address are started in the order in which the calls
got in line, leaving out those that were cancelled, dropped or refused; and
while the registry is in use, the calls that remain wait in that order. -/
theorem first_come_first_served {b : Simulated} {options : SessionOptions} {policy : SweepPolicy}
    {hs : List Happening} (hb : 0 ≤ b.nextDescriptor)
    (ht : (World.unused b options policy).Turns hs w)
    (hg : (World.unused b options policy).Unrefused hs) (a : Address) :
    ((World.unused b options policy).lined a hs).Nodup ∧
      (World.unused b options policy).called a hs <+:
        ((World.unused b options policy).lined a hs).filter (!w.leftOut ·) ∧
      (w.site.registry.disposed = false →
        ((World.unused b options policy).lined a hs).filter (!w.leftOut ·) =
          (World.unused b options policy).called a hs ++ w.awaiting a) := by
  have hl := ht.ledger hg (sound_unused hb options policy) (unstarted_unused b options policy)
    (fun _ _ hj => nomatch hj) (settled_unused b options policy) (ledger_unused b options policy a)
  exact ⟨hl.once, hl.ahead, hl.rest⟩

/-- Who never takes a step does nothing. -/
theorem deeds_of_never {hs : List Happening} (hn : .step id ∉ hs) : w.deeds id hs = [] := by
  induction hs generalizing w with
  | nil => rfl
  | cons h rest ih =>
      rw [List.mem_cons, not_or] at hn
      cases hp : w.perform h with
      | none =>
          show (match w.perform h with | some w' => _ | none => _) = _
          rw [hp]
      | some w' => rw [deeds_cons hp, deedsIn_of_ne (Ne.symm hn.1), ih hn.2, List.append_nil]

/-- Whether a session is refused need only be asked of the tasks that take
steps. -/
theorem unrefused_of_below {hs : List Happening} {n : Nat}
    (hn : (hs.all fun h => h.subject?.all (· < n)) = true)
    (hall : ((List.range n).all fun id => (w.deeds id hs).all (!·.isRefusal)) = true) :
    w.Unrefused hs := by
  intro id f hmem
  by_cases hlt : id < n
  · have h := List.all_eq_true.mp (List.all_eq_true.mp hall id (List.mem_range.mpr hlt)) _ hmem
    cases h
  · rw [deeds_of_never] at hmem
    · cases hmem
    · intro hstep
      have h := List.all_eq_true.mp hn _ hstep
      exact hlt (of_decide_eq_true h)

/-- Five calls of an address. The first holds the session for a second, and
three line up behind it, of which the second is cancelled; the next to run
closes the session. Then the entry is taken out of the cache, and a fifth
call comes to a new one. -/
def fiveInLine : List (Happening × Nat) :=
  [(.execute ⟨5, 0⟩ [.sleep (.ofSecs 1)] false, 0), (.step 0, 6),
    (.execute ⟨5, 0⟩ [.close] false, 0), (.step 1, 2), (.execute ⟨5, 0⟩ [] false, 0),
    (.step 2, 2), (.execute ⟨5, 0⟩ [] false, 0), (.step 3, 2), (.cancel 2, 0), (.step 2, 0),
    (.elapse (.ofSecs 1), 0), (.step 0, 1), (.step 1, 5), (.step 3, 5), (.evict, 0), (.step 4, 6),
    (.execute ⟨5, 0⟩ [] false, 0), (.step 5, 7)]

theorem first_come_first_served_five :
    ∃ hs w, (World.unused .empty .standard ⟨.zero, .zero⟩).Turns hs w ∧
      (World.unused .empty .standard ⟨.zero, .zero⟩).Unrefused hs ∧
      (World.unused .empty .standard ⟨.zero, .zero⟩).lined ⟨5, 0⟩ hs = [0, 1, 2, 3, 5] ∧
      (World.unused .empty .standard ⟨.zero, .zero⟩).called ⟨5, 0⟩ hs = [0, 1, 3, 5] ∧
      w.site.registry.created = 3 ∧ w.site.registry.entries.length = 2 ∧
      [0, 1, 2, 3, 5].filter (!w.leftOut ·) = [0, 1, 3, 5] ++ w.awaiting ⟨5, 0⟩ := by
  have hplan : ((World.unused .empty .standard ⟨.zero, .zero⟩).turns? fiveInLine).any (fun p =>
      ((p.1.all fun h => h.subject?.all (· < 6)) &&
        (List.range 6).all fun id =>
          ((World.unused .empty .standard ⟨.zero, .zero⟩).deeds id p.1).all (!·.isRefusal)) &&
      ((World.unused .empty .standard ⟨.zero, .zero⟩).lined ⟨5, 0⟩ p.1 == [0, 1, 2, 3, 5] &&
        (World.unused .empty .standard ⟨.zero, .zero⟩).called ⟨5, 0⟩ p.1 == [0, 1, 3, 5]) &&
      (p.2.site.registry.created == 3 && p.2.site.registry.entries.length == 2 &&
        !p.2.site.registry.disposed)) = true := by
    decide +kernel
  obtain ⟨⟨hs, w⟩, hturns, hall⟩ := (Option.any_eq_true _ _).mp hplan
  simp only [Bool.and_eq_true, beq_iff_eq, Bool.not_eq_true'] at hall
  obtain ⟨⟨⟨hbelow, hasked⟩, hlined, hcalled⟩, ⟨hcreated, hentries⟩, hd⟩ := hall
  have ht := turns_of_turns? hturns
  have hg := unrefused_of_below hbelow hasked
  obtain ⟨-, -, hrest⟩ := first_come_first_served (by decide) ht hg ⟨5, 0⟩
  have hlast := hrest hd
  rw [hlined, hcalled] at hlast
  exact ⟨hs, w, ht, hg, hlined, hcalled, hcreated, hentries, hlast⟩

end World

end InstrumentBus
