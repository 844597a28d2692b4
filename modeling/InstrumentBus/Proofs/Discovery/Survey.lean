/-
A survey of a bus in memory: whoever is there is asked once, and says what
its table says.

While the survey goes on (`Surveying`), the addresses that have been asked
are those in the cache, each with an entry of its own, an open session and
a free lock, and the descriptors are handed out in the same order. So each
call is the first one for its address, and the disposal at the end finds
all the sessions open. What is kept besides is that nobody who has yet to
be asked has been touched.
-/
import InstrumentBus.Proofs.Config.Consumers
import InstrumentBus.Proofs.Discovery.Inquiry
import InstrumentBus.Proofs.Discovery.Scan
import InstrumentBus.Proofs.Discovery.Settle

namespace InstrumentBus

-- ================================================ sessions taken offline

theorem Keyed.keys_modify {κ ν : Type} [DecidableEq κ] (f : ν → ν) (l : List (κ × ν)) (key : κ) :
    keys (modify f l key) = keys l := by
  induction l with
  | nil => rfl
  | cons p rest ih =>
      obtain ⟨k, w⟩ := p
      unfold modify
      split
      · rfl
      · exact congrArg (k :: ·) ih

namespace Simulated

theorem offlineCount_takeOffline (b : Simulated) (d v d' : Int) :
    (b.takeOffline d v).offlineCount d' =
      if d = d' then b.offlineCount d' + 1 else b.offlineCount d' := by
  have hcounts : (b.takeOffline d v).offlineCounts =
      Keyed.set b.offlineCounts d (b.offlineCount d + 1) := by
    unfold takeOffline
    simp only
    split <;> rfl
  unfold offlineCount
  rw [hcounts, Keyed.get?_set]
  split
  next heq => rw [← heq]; rfl
  next => rfl

theorem keys_takeOffline (b : Simulated) (d v : Int) :
    Keyed.keys (b.takeOffline d v).links = Keyed.keys b.links := by
  unfold takeOffline
  simp only
  split
  · exact Keyed.keys_modify _ _ _
  · rfl

/-- Descriptors taken offline, one after the other. -/
theorem takeOffline_all {ds : List Int} (hds : ds.Nodup) (b : Simulated) :
    let b' := ds.foldl (fun b d => b.takeOffline d 0) b
    Keyed.keys b'.links = Keyed.keys b.links ∧
      (∀ d, b'.link? d =
        if d ∈ ds then (b.link? d).map fun l => { l with online := false } else b.link? d) ∧
      ∀ d, b'.offlineCount d = if d ∈ ds then b.offlineCount d + 1 else b.offlineCount d := by
  refine And.imp_right (And.intro (link?_takeOffline_all ds b)) ?_
  induction ds generalizing b with
  | nil => simp
  | cons d rest ih =>
      obtain ⟨hnew, hrest⟩ := List.nodup_cons.mp hds
      obtain ⟨hkeys, hcounts⟩ := ih hrest (b.takeOffline d 0)
      refine ⟨hkeys.trans (b.keys_takeOffline d 0), fun d' => ?_⟩
      refine (hcounts d').trans ?_
      rw [offlineCount_takeOffline]
      by_cases hd : d = d'
      · simp [← hd, hnew]
      · simp [hd, Ne.symm hd]

end Simulated

-- ===================================================== under way

namespace Discovery

/-- A survey of a bus under way, in which some addresses have been asked. -/
structure Surveying (b : Simulated) (o : SessionOptions) (asked : List Address)
    (w : World Simulated) : Prop where
  options : w.site.registry.options = o
  alive : w.site.registry.disposed = false
  unlocked : w.site.registry.Unlocked
  cache : w.site.registry.cache = asked.zipIdx
  entries : w.site.registry.entries.length = asked.length
  -- the sessions are open, on the descriptors handed out one by one
  sessions : ∀ e < asked.length, w.site.registry.Occupied e (b.nextDescriptor + e)
  links : Keyed.keys w.site.bus.links =
    (List.range asked.length).map fun k : Nat => b.nextDescriptor + k
  next : w.site.bus.nextDescriptor = b.nextDescriptor + asked.length
  online : w.site.bus.offlineCounts = []
  opens : w.site.bus.failOpen = false
  calm : w.site.bus.faults = []
  -- the others have not been touched
  untouched : ∀ a, a ∉ asked → w.site.bus.instrument? a = b.instrument? a

/-- What the instrument at an address says to a question. -/
def answerAt (b : Simulated) (t : Terminator) (question : String) (a : Address) : Answer :=
  (b.instrument? a).elim (.ok "") (saying t · question)

namespace Surveying

variable {b : Simulated} {o : SessionOptions} {asked : List Address} {w : World Simulated}

/-- An address that has not been asked is not in the cache. -/
theorem current? (h : Surveying b o asked w) {a : Address} (ha : a ∉ asked) :
    w.site.registry.current? a = none := by
  refine Keyed.get?_eq_none_of_not_mem ?_
  unfold Keyed.keys
  rwa [h.cache, List.zipIdx_map_fst]

/-- It is put there last. -/
theorem cache_install (h : Surveying b o asked w) {a : Address} (ha : a ∉ asked) :
    Keyed.set w.site.registry.cache a w.site.registry.entries.length = (asked ++ [a]).zipIdx := by
  rw [Keyed.set_of_get?_eq_none (h.current? ha), h.cache, h.entries, List.zipIdx_append]
  simp

/-- The next descriptor is a new one. -/
theorem keys_opened (h : Surveying b o asked w) (a : Address) :
    Keyed.keys (w.site.bus.opened a).links =
      (List.range (asked ++ [a]).length).map fun k : Nat => b.nextDescriptor + k := by
  have hnew : w.site.bus.nextDescriptor ∉ Keyed.keys w.site.bus.links := by
    rw [h.links, h.next]
    intro hmem
    obtain ⟨k, hk, heq⟩ := List.mem_map.mp hmem
    rw [List.mem_range] at hk
    omega
  show Keyed.keys (Keyed.set _ _ _) = _
  rw [Keyed.keys_set, if_neg hnew, h.links, h.next, List.length_append, List.length_singleton,
    List.range_succ, List.map_append]
  rfl

/-- A session to an address that has not been asked is put into a new entry,
and has left the others alone. -/
theorem occupy {bus bus' : Simulated} {now : Instant} {r : Registry} {tasks tasks' : List Task}
    (h : Surveying b o asked ⟨⟨bus, now, r⟩, tasks⟩) {a : Address} (ha : a ∉ asked) {s : Session}
    (hopen : s.closed = false) (hs : s.descriptor = bus.nextDescriptor)
    (hapart : (bus.opened a).Apart s.descriptor bus') :
    Surveying b o (asked ++ [a]) ⟨⟨bus', now,
      { r with created := r.created + 1 }.install a ⟨some s, now, .free⟩⟩, tasks'⟩ where
  options := h.options
  alive := h.alive
  unlocked := h.unlocked.install a rfl
  cache := h.cache_install ha
  entries := by
    show (r.entries ++ [_]).length = _
    rw [List.length_append, List.length_append, ← h.entries]
    rfl
  sessions e he := by
    have hentries : r.entries.length = asked.length := h.entries
    have hnext : bus.nextDescriptor = b.nextDescriptor + asked.length := h.next
    rw [List.length_append, List.length_singleton] at he
    by_cases hlast : e = r.entries.length
    · subst hlast
      exact ⟨s, Registry.slot?_install (r := { r with created := r.created + 1 }), hopen,
        by rw [hs, hentries, hnext]⟩
    · obtain ⟨s', hslot, hs'⟩ := h.sessions e (by omega)
      exact ⟨s', (Registry.slot?_install_ne (r := { r with created := r.created + 1 })
        hlast).trans hslot, hs'⟩
  links := by
    rw [show bus'.links = (bus.opened a).links from hapart.frame.links.1]
    exact h.keys_opened a
  next := by
    have hnext : bus.nextDescriptor = b.nextDescriptor + asked.length := h.next
    rw [show bus'.nextDescriptor = bus.nextDescriptor + 1 from hapart.frame.links.2, hnext,
      List.length_append, List.length_singleton]
    omega
  online := hapart.counts.trans h.online
  opens := hapart.frame.failOpen.trans h.opens
  calm := hapart.frame.faults h.calm
  untouched a' ha' := by
    have hlink : (bus.opened a).link? s.descriptor = some ⟨a, true⟩ :=
      (Keyed.get?_set _ _ _ _).trans (if_pos hs.symm)
    rw [List.mem_append, not_or, List.mem_singleton] at ha'
    exact (hapart.frame.elsewhere _ a' hlink (Ne.symm ha'.2)).trans (h.untouched a' ha'.1)

/-- An instrument is asked. -/
theorem ask (h : Surveying b o asked w) (hn : 0 ≤ b.nextDescriptor) (ho : 0 ≤ o.board)
    {a : Address} (ha : a ∉ asked) (hin : a.InRange) {i : Instrument}
    (hi : b.instrument? a = some i) (question : String) :
    ∃ w', Discovery.ask question w a = (w', saying o.terminator i question) ∧
      Surveying b o (asked ++ [a]) w' := by
  obtain ⟨⟨bus, now, r⟩, tasks⟩ := w
  have hnext : bus.nextDescriptor = b.nextDescriptor + asked.length := h.next
  have hoptions : r.options = o := h.options
  let s : Session := ⟨bus.nextDescriptor, a, r.options.board, r.options.timeout,
    r.options.terminator, false⟩
  have hconnect : (Session.connect a r.options).run bus = (.ok s, bus.opened a) :=
    Simulated.run_connect (b := bus) h.opens (by omega) hin (by rwa [hoptions])
  have hlink : (bus.opened a).link? s.descriptor = some ⟨a, true⟩ :=
    (Keyed.get?_set _ _ _ _).trans (if_pos rfl)
  have hthere : (bus.opened a).instrument? a = some i := (h.untouched a ha).trans hi
  obtain ⟨replies, result, bus', hrun, hsaid, hapart⟩ :=
    run_inquiry (s := s) (b := bus.opened a) rfl h.calm hlink hthere question now
  have hturn := World.settle_first ⟨bus, now, r⟩ tasks h.alive (h.current? ha) hconnect hrun
  let asking := (World.mk ⟨bus, now, r⟩ tasks).start (.call (.new a (inquiry question)))
  have htask : (asking.settle tasks.length).task? tasks.length =
      some (.call ⟨a, inquiry question, false, some (now, s.descriptor), replies,
        .ended result⟩) := by
    rw [hturn]
    exact List.getElem?_concat_length
  refine ⟨asking.settle tasks.length, Prod.ext rfl ?_, ?_⟩
  · show answerOf ((asking.settle tasks.length).task? tasks.length) = _
    rw [htask, hsaid, ← hoptions]
  · rw [hturn]
    exact h.occupy ha rfl rfl hapart

/-- Instruments are asked, one after the other. -/
theorem askAll (h : Surveying b o asked w) (hn : 0 ≤ b.nextDescriptor) (ho : 0 ≤ o.board)
    (rest : List Address) (hnodup : (asked ++ rest).Nodup)
    (hrest : ∀ a ∈ rest, a.InRange ∧ (b.instrument? a).isSome = true) (question : String) :
    ∃ w', Discovery.askAll question w rest =
        (w', rest.map fun a => (a, answerAt b o.terminator question a)) ∧
      Surveying b o (asked ++ rest) w' := by
  induction rest generalizing asked w with
  | nil => exact ⟨w, rfl, by rwa [List.append_nil]⟩
  | cons a rest ih =>
      have hassoc : asked ++ a :: rest = asked ++ [a] ++ rest := by
        rw [List.append_assoc]
        rfl
      have ha : a ∉ asked := fun hmem =>
        (List.nodup_append.mp hnodup).2.2 a hmem a List.mem_cons_self rfl
      obtain ⟨hin, hthere⟩ := hrest a List.mem_cons_self
      obtain ⟨i, hi⟩ := Option.isSome_iff_exists.mp hthere
      obtain ⟨w₁, hask, h₁⟩ := h.ask hn ho ha hin hi question
      obtain ⟨w₂, hall, h₂⟩ := ih h₁ (hassoc ▸ hnodup)
        fun a' ha' => hrest a' (List.mem_cons_of_mem _ ha')
      refine ⟨w₂, ?_, hassoc ▸ h₂⟩
      have hanswer : answerAt b o.terminator question a = saying o.terminator i question := by
        unfold answerAt
        rw [hi]
        rfl
      unfold Discovery.askAll
      simp only [hask, hall, hanswer, List.map_cons]

/-- The end of a survey: every session it has opened is taken offline, once. -/
theorem dispose (h : Surveying b o asked w) :
    (Discovery.dispose w).site.bus.links.length = asked.length ∧
      ∀ d l, (Discovery.dispose w).site.bus.link? d = some l →
        l.online = false ∧ (Discovery.dispose w).site.bus.offlineCount d = 1 := by
  let ds := (List.range asked.length).map fun k : Nat => b.nextDescriptor + k
  have hds : ds.Nodup := by
    refine List.Nodup.map (fun j k heq => ?_) List.nodup_range
    have heq' : b.nextDescriptor + (j : Int) = b.nextDescriptor + k := heq
    omega
  have hcached : w.site.registry.cache.map (·.2) = List.range asked.length := by
    rw [h.cache, List.zipIdx_map_snd, List.range_eq_range']
  have hbus : (Discovery.dispose w).site.bus =
      ds.foldl (fun b d => b.takeOffline d 0) w.site.bus := by
    have hturn := World.settle_disposal_open w.site w.tasks
      (d := fun e => b.nextDescriptor + e) h.alive h.unlocked
      (by rw [hcached]; exact List.nodup_range)
      (by rw [hcached]; exact fun e he => h.sessions e (List.mem_range.mp he))
    rw [hcached] at hturn
    rw [List.foldl_map]
    exact hturn
  obtain ⟨hkeys, hlinks, hcounts⟩ := Simulated.takeOffline_all hds w.site.bus
  rw [hbus]
  constructor
  · have hlength := congrArg List.length (hkeys.trans h.links)
    unfold Keyed.keys at hlength
    simpa using hlength
  · intro d l hl
    rw [hlinks] at hl
    by_cases hd : d ∈ ds
    · rw [if_pos hd] at hl
      obtain ⟨l', -, rfl⟩ := Option.map_eq_some_iff.mp hl
      refine ⟨rfl, ?_⟩
      rw [hcounts, if_pos hd]
      unfold Simulated.offlineCount
      rw [h.online]
      rfl
    · -- there is no other session
      rw [if_neg hd] at hl
      have hmem : d ∈ Keyed.keys w.site.bus.links :=
        Keyed.mem_keys.mpr (Option.isSome_iff_exists.mpr ⟨l, hl⟩)
      rw [h.links] at hmem
      exact absurd hmem hd

end Surveying

/-- A bus on which no session has been opened. -/
structure Fresh (b : Simulated) : Prop where
  links : b.links = []
  counts : b.offlineCounts = []

theorem Surveying.begin {b : Simulated} (h : b.Plain) (hb : Fresh b) (c : Configuration)
    (count : Nat) :
    Surveying b c.sessionOptions [] (World.idle (b.complete count) c.newRegistry) where
  options := rfl
  alive := rfl
  unlocked _ _ he := nomatch he
  cache := rfl
  entries := rfl
  sessions _ he := absurd he (Nat.not_lt_zero _)
  links := congrArg Keyed.keys hb.links
  next := (Int.add_zero _).symm
  online := hb.counts
  opens := h.opens
  calm := h.calm
  untouched _ _ := rfl

/-- A survey of a bus that does as it is told, with instruments at addresses
that a device can have. -/
theorem run_survey {b : Simulated} (h : b.Plain) (hb : Fresh b)
    (hin : ∀ a ∈ b.attached, a.InRange) {c : Configuration} (hc : c.Sensible) (question : String) :
    ∃ b', survey c question b = (b', .ok
        ⟨⟨b.within c.scan.lowest c.scan.highest, (b.within c.scan.lowest c.scan.highest).length,
            false⟩,
          (b.within c.scan.lowest c.scan.highest).map fun a =>
            (a, answerAt b c.bus.terminator question a)⟩) ∧
      b'.links.length = (b.within c.scan.lowest c.scan.highest).length ∧
      ∀ d l, b'.link? d = some l → l.online = false ∧ b'.offlineCount d = 1 := by
  have hscan := h.run_scan hc.range c.bus.board
  have hroom : (b.within c.scan.lowest c.scan.highest).length ≤ _ := h.length_within hin
  rw [List.take_of_length_le hroom, decide_eq_false (Nat.not_lt.mpr hroom)] at hscan
  have hthere : ∀ a ∈ b.within c.scan.lowest c.scan.highest,
      a.InRange ∧ (b.instrument? a).isSome = true := by
    intro a ha
    obtain ⟨hthere, -⟩ := Simulated.mem_within.mp ha
    exact ⟨hin a (Simulated.mem_attached.mpr hthere), hthere⟩
  have hbegin := Surveying.begin h hb c (b.within c.scan.lowest c.scan.highest).length
  obtain ⟨w, hasked, hw⟩ := hbegin.askAll h.numbered (Int32.not_lt.mp hc.board)
    (b.within c.scan.lowest c.scan.highest) (h.within_ascends _ _).nodup hthere question
  refine ⟨_, ?_, hw.dispose⟩
  unfold survey
  rw [hscan]
  simp only [hasked]
  rfl

end Discovery

end InstrumentBus
