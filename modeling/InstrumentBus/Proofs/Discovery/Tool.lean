/-
The discovery tool on its demonstration bus, from the command line to the
exit.

The tool is asked for a survey in which a question is put to whoever is
found. What it prints is settled by the configuration in effect and the
question alone: the instruments of the demonstration bus in the range, in
ascending order, each with what it says (`demonstrated`). Where there is
no configuration to go by, or what was given on the command line makes no
sense in it, the tool prints nothing and says so by its exit code.
-/
import InstrumentBus.Discovery
import InstrumentBus.Proofs.Config.Layers
import InstrumentBus.Proofs.Discovery.CommandLine
import InstrumentBus.Proofs.Discovery.Survey

namespace InstrumentBus.Discovery

-- ================================================ the demonstration bus

/-- What an instrument of the demonstration bus says to a question. -/
def demonstrated (t : Terminator) (question identity : String) : Answer :=
  if question = "" then .error (.invalidArgument .emptyCommand)
  else if Instrument.commandOf (Text.Latin.encode question.toList ++ t.bytes) = identify then
    .ok identity
  else .ok ""

/-- The instruments of the demonstration bus in a range. -/
def shown (lo hi : UInt8) : List (Address × String) :=
  demonstration.filter fun p => lo ≤ p.1.primary ∧ p.1.primary ≤ hi

theorem attached_demonstrationBus : demonstrationBus.attached = demonstration.map (·.1) := by
  decide

theorem within_demonstrationBus (lo hi : UInt8) :
    demonstrationBus.within lo hi = (shown lo hi).map (·.1) := by
  unfold Simulated.within shown
  rw [attached_demonstrationBus, List.filter_map]
  rfl

theorem instrument?_demonstrationBus : ∀ p ∈ demonstration,
    demonstrationBus.instrument? p.1 = some (Instrument.silent.respond identify p.2) := by
  decide

/-- It is ascending. -/
theorem shown_ascends (lo hi : UInt8) : ((shown lo hi).map (·.1)).Pairwise Address.Before := by
  rw [← within_demonstrationBus]
  exact Simulated.Plain.demonstrationBus.within_ascends lo hi

/-- The identities are read as they were written. -/
theorem textOf_identity : ∀ p ∈ demonstration,
    Session.textOf (Text.Unicode.encode p.2.toList ++ [10]) = p.2 := by
  decide

theorem answerAt_demonstrationBus {p : Address × String} (hp : p ∈ demonstration) (t : Terminator)
    (question : String) :
    answerAt demonstrationBus t question p.1 = demonstrated t question p.2 := by
  let data := Text.Latin.encode question.toList ++ t.bytes
  have hanswer : (Instrument.silent.respond identify p.2).answer? data =
      if identify = Instrument.commandOf data then some p.2 else none :=
    Keyed.get?_set [] identify p.2 _
  have hsaid : Session.textOf ((Instrument.silent.respond identify p.2).queued data) =
      if Instrument.commandOf data = identify then p.2 else "" := by
    unfold Instrument.queued
    rw [hanswer]
    by_cases hknown : Instrument.commandOf data = identify
    · rw [if_pos hknown.symm, if_pos hknown]
      exact textOf_identity p hp
    · rw [if_neg (Ne.symm hknown), if_neg hknown]
      rfl
  unfold answerAt
  rw [instrument?_demonstrationBus p hp]
  show saying t (Instrument.silent.respond identify p.2) question = _
  unfold saying demonstrated
  rw [hsaid]
  split
  · rfl
  · split <;> rfl

/-- A survey of the demonstration bus. -/
theorem survey_demonstrationBus {c : Configuration} (hc : c.IsValid) (question : String) :
    ∃ b', survey c question demonstrationBus = (b', .ok
        ⟨⟨(shown c.scan.lowest c.scan.highest).map (·.1),
            (shown c.scan.lowest c.scan.highest).length, false⟩,
          (shown c.scan.lowest c.scan.highest).map fun p =>
            (p.1, demonstrated c.bus.terminator question p.2)⟩) ∧
      b'.links.length = (shown c.scan.lowest c.scan.highest).length ∧
      ∀ d l, b'.link? d = some l → l.online = false ∧ b'.offlineCount d = 1 := by
  obtain ⟨b', hsurvey, hclosed⟩ := run_survey .demonstrationBus ⟨rfl, rfl⟩
    (by rw [attached_demonstrationBus]; decide) (Configuration.isValid_iff.mp hc) question
  rw [within_demonstrationBus, List.length_map, List.map_map] at hsurvey
  rw [within_demonstrationBus, List.length_map] at hclosed
  refine ⟨b', ?_, hclosed⟩
  rw [hsurvey]
  congr 3
  refine List.map_congr_left fun p hp => ?_
  have hmem : p ∈ demonstration := List.mem_of_mem_filter hp
  exact congrArg (Prod.mk p.1) (answerAt_demonstrationBus hmem c.bus.terminator question)

-- ============================================================= the tool

/-- What the tool prints of the demonstration bus. -/
def printed (c : Configuration) (question : String) : String :=
  header c (shown c.scan.lowest c.scan.highest).length ++
    String.join ((shown c.scan.lowest c.scan.highest).map fun p =>
      answerLine (p.1, demonstrated c.bus.terminator question p.2))

/-- It is the report of the survey. -/
theorem report_shown (c : Configuration) (question : String) :
    report c ⟨⟨(shown c.scan.lowest c.scan.highest).map (·.1),
        (shown c.scan.lowest c.scan.highest).length, false⟩,
      (shown c.scan.lowest c.scan.highest).map fun p =>
        (p.1, demonstrated c.bus.terminator question p.2)⟩ = printed c question := by
  have hcut : ∀ addresses reported, cutNotice ⟨addresses, reported, false⟩ = "" := fun _ _ => rfl
  unfold report printed
  rw [hcut, String.append_empty, List.length_map, List.map_map]
  rfl

/-- What the tool is asked for: a survey of the demonstration bus, and what
is to be put in the place of the configuration. -/
def asking (config : Option String) (board : Option Int32) (lowest highest : Option UInt8)
    (question : String) : Arguments :=
  ⟨config, board, lowest, highest, some question, true, false⟩

/-- The configuration that the tool goes by: what was loaded, with what the
command line puts in its place. It makes sense before and after. -/
def Arguments.GoesBy (a : Arguments) (file : Option String) (env : Environment)
    (c : Configuration) : Prop :=
  ∃ loaded, Configuration.load a.configPath file env = .ok loaded ∧ loaded.IsValid ∧
    c = a.override loaded ∧ c.IsValid

section

variable {config : Option String} {board : Option Int32} {lowest highest : Option UInt8}
  {question : String} {file : Option String} {env : Environment} {c : Configuration}

@[simp] theorem queryText_asking :
    (asking config board lowest highest question).queryText = question := rfl

@[simp] theorem printConfig_asking :
    (asking config board lowest highest question).printConfig = false := rfl

@[simp] theorem simulate_asking :
    (asking config board lowest highest question).simulate = true := rfl

theorem perform_asking (h : (asking config board lowest highest question).GoesBy file env c) :
    ∃ bus, perform (asking config board lowest highest question) file env =
        .ok (printed c question, bus) ∧
      bus.links.length = (shown c.scan.lowest c.scan.highest).length ∧
      ∀ d l, bus.link? d = some l → l.online = false ∧ bus.offlineCount d = 1 := by
  obtain ⟨loaded, hload, -, rfl, hvalid⟩ := h
  obtain ⟨bus, hsurvey, hclosed⟩ := survey_demonstrationBus hvalid question
  refine ⟨bus, ?_, hclosed⟩
  unfold Configuration.IsValid at hvalid
  unfold perform
  simp only [hload, hvalid, hsurvey, queryText_asking, printConfig_asking, simulate_asking,
    Except.mapError, bind, Except.bind]
  exact congrArg (fun text => Except.ok (text, bus)) (report_shown _ question)

/-- Without a configuration to go by there is nothing but a complaint. -/
theorem perform_asking_error
    (h : ∀ c, ¬ (asking config board lowest highest question).GoesBy file env c) :
    ∃ t, perform (asking config board lowest highest question) file env = .error t := by
  unfold perform
  cases hload : Configuration.load (asking config board lowest highest question).configPath
    file env with
  | error f => exact ⟨_, rfl⟩
  | ok loaded =>
      cases hobj : ((asking config board lowest highest question).override loaded).objection? with
      | some o =>
          refine ⟨.overrides o, ?_⟩
          simp only [hobj, Except.mapError, bind, Except.bind]
          rfl
      | none => exact absurd ⟨loaded, hload, Configuration.isValid_of_load hload, rfl, hobj⟩ (h _)

end

/-- What the tool does on its demonstration bus, for any file, environment
and command line that asks for it. One such command line names each option
once; it is the same request in another order or with the values in
arguments of their own.

With a configuration to go by the tool ends well and prints the report,
in which the instruments stand in ascending order; each session was opened
for one of them, and has been taken offline once. Without one it fails, and
prints nothing. -/
theorem run_demonstration (config : Option String) (board : Option Int32)
    (lowest highest : Option UInt8) (question : String) (file : String → Option String)
    (env : Environment) :
    let a := asking config board lowest highest question
    Arguments.read a.written = .ok (.run a) ∧
      ∀ line, Arguments.read line = .ok (.run a) →
        (∀ c, a.GoesBy (file a.configPath) env c →
          run line file env = ⟨0, printed c question, ""⟩ ∧
            ((shown c.scan.lowest c.scan.highest).map (·.1)).Pairwise Address.Before ∧
            ∃ bus, perform a (file a.configPath) env = .ok (printed c question, bus) ∧
              bus.links.length = (shown c.scan.lowest c.scan.highest).length ∧
              ∀ d l, bus.link? d = some l → l.online = false ∧ bus.offlineCount d = 1) ∧
        ((∀ c, ¬ a.GoesBy (file a.configPath) env c) →
          (run line file env).code = 1 ∧ (run line file env).output = "") := by
  intro a
  refine ⟨a.read_written, fun line hread => ?_⟩
  have hexit : run line file env = a.exit (file a.configPath) env := by
    unfold run
    rw [hread]
  rw [hexit]
  unfold Arguments.exit
  refine ⟨fun c hc => ?_, fun hnone => ?_⟩
  · obtain ⟨bus, hperform, hclosed⟩ := perform_asking hc
    rw [hperform]
    exact ⟨rfl, shown_ascends _ _, bus, rfl, hclosed⟩
  · obtain ⟨t, hperform⟩ := perform_asking_error hnone
    rw [hperform]
    exact ⟨rfl, rfl⟩

/-- Without a file, from the address that two instruments share upwards. A
bound that no bus has is the end of it. -/
theorem run_demonstration_shared :
    let c := Configuration.standard
    let above : Configuration := { c with scan := ⟨12, c.scan.highest⟩ }
    run ["--simulate", "--min", "12", "--query=*IDN?\r"] (fun _ => none) [] =
        ⟨0, printed above "*IDN?\r", ""⟩ ∧
      printed above "*IDN?\r" = "Found 2 instrument(s) on board 0 (primary 12..=30)\n" ++
        "  GPIB::12::INSTR: ACME,PSU-30,SIM0012,2.10\n" ++
        "  GPIB::12::3::INSTR: ACME,SCANNER-8,SIM1203,0.9\n" ∧
      (run ["--simulate", "--min=31", "--query="] (fun _ => none) []).code = 1 := by
  intro c above
  have hload : Configuration.load Arguments.standardConfig none [] = .ok c := by decide +kernel
  have hshared := (run_demonstration none none (some 12) none "*IDN?\r" (fun _ => none) []).2
    ["--simulate", "--min", "12", "--query=*IDN?\r"] (by decide +kernel)
  have hbeyond := (run_demonstration none none (some 31) none "" (fun _ => none) []).2
    ["--simulate", "--min=31", "--query="] (by decide +kernel)
  refine ⟨(hshared.1 above ⟨c, hload, by decide, rfl, by decide⟩).1, by decide +kernel, ?_⟩
  refine (hbeyond.2 fun c' => ?_).1
  rintro ⟨loaded, hloaded, -, rfl, hvalid⟩
  obtain rfl : c = loaded := Except.ok.inj (hload.symm.trans hloaded)
  exact absurd hvalid (by decide)

end InstrumentBus.Discovery
