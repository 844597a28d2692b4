/-
The command line of the discovery tool, written and read.

Whatever the tool may be asked for can be written on a command line, each
option once and with its value behind an equals sign
(`Arguments.written`), and it is read from there as it was meant.
-/
import InstrumentBus.Discovery.Arguments
import InstrumentBus.Proofs.Numeral

namespace InstrumentBus

-- ========================================================== the numbers

theorem Numeral.parse?_toString (n : Int) : parse? true (toString n).toList = some n := by
  rcases toList_toString n with ⟨h, hlist⟩ | ⟨h, hlist⟩
  · rw [hlist, parse?_toDigits, Int.toNat_of_nonneg h]
  · rw [hlist, parse?_neg_toDigits, Int.toNat_of_nonneg (by omega), Int.neg_neg]

namespace Discovery.Arguments

theorem number?_toString {k : IntKind} {n : Int} (h : k.holds n = true) :
    number? k (toString n) = some n := by
  unfold number?
  rw [Numeral.parse?_toString, Option.filter_some, h]
  rfl

/-- A board is written in full. -/
theorem number?_board (n : Int32) : number? .i32 (toString n) = some n.toInt := by
  refine number?_toString ?_
  have hlo := n.le_toInt
  have hhi := n.toInt_lt
  unfold IntKind.holds
  simp only [Bool.and_eq_true, decide_eq_true_eq]
  constructor
  · show (-2147483648 : Int) ≤ _
    omega
  · show _ ≤ (2147483647 : Int)
    omega

theorem number?_primary (n : UInt8) : number? .u8 (toString n) = some (n.toNat : Int) := by
  have hhi := n.toNat_lt
  refine number?_toString (n := n.toNat) ?_
  unfold IntKind.holds
  simp only [Bool.and_eq_true, decide_eq_true_eq]
  constructor
  · show (0 : Int) ≤ _
    omega
  · show _ ≤ (255 : Int)
    omega

-- ========================================================== the writing

/-- An option, if it has a value. -/
def given (name : String) (value : Option String) : List String :=
  (value.map fun v => "--" ++ name ++ "=" ++ v).toList

/-- A flag, if it is raised. -/
def raised (name : String) (up : Bool) : List String := if up then ["--" ++ name] else []

/-- A command line that says what is asked for. -/
def written (a : Arguments) : List String :=
  raised "simulate" a.simulate ++ (raised "print-config" a.printConfig ++
    (given "query" a.query ++ (given "config" a.config ++
      (given "board" (a.board.map toString) ++ (given "min" (a.lowest.map toString) ++
        given "max" (a.highest.map toString))))))

-- ========================================================== the reading

/-- An option and its value are told apart by the first equals sign. -/
theorem split?_given {name : String} (h : '=' ∉ name.toList) (value : String) :
    split? ("--" ++ name ++ "=" ++ value) = some (name, some value) := by
  have hlist : ("--" ++ name ++ "=" ++ value).toList =
      '-' :: '-' :: (name.toList ++ '=' :: value.toList) := by
    simp only [String.toList_append, List.append_assoc]
    rfl
  have hname : ∀ c ∈ name.toList, decide (c ≠ '=') = true := fun c hc =>
    decide_eq_true fun heq => h (heq ▸ hc)
  have hfront : (name.toList ++ '=' :: value.toList).takeWhile (· ≠ '=') = name.toList := by
    rw [List.takeWhile_append_of_pos hname, List.takeWhile_cons_of_neg (by decide),
      List.append_nil]
  have hback : (name.toList ++ '=' :: value.toList).dropWhile (· ≠ '=') =
      '=' :: value.toList := by
    rw [List.dropWhile_append_of_pos hname, List.dropWhile_cons_of_neg (by decide)]
  unfold split?
  rw [hlist]
  simp only [hfront, hback, String.ofList_toList]

theorem equals_not_mem : ∀ name ∈ valued, '=' ∉ name.toList := by decide

theorem readFrom_given {name : String} (hname : name ∈ valued) {value : Option String}
    {a a' : Arguments} (hnone : value = .none → a' = a)
    (hsome : ∀ v, value = some v → a.give name v = .ok a') (rest : List String) :
    readFrom a (given name value ++ rest) = readFrom a' rest := by
  cases value with
  | none => exact congrArg (readFrom · rest) (hnone rfl).symm
  | some v =>
      have hequals := equals_not_mem name hname
      have hstep : readFrom a (("--" ++ name ++ "=" ++ v) :: rest) =
          (do readFrom (← a.give name v) rest) := by
        conv => lhs; unfold readFrom
        rw [split?_given hequals]
        simp only [if_pos hname]
      refine hstep.trans ?_
      rw [hsome v rfl]
      rfl

theorem readFrom_raised {name : String} (hname : name ∈ ["simulate", "print-config"]) {up : Bool}
    {a a' : Arguments} (hdown : up = false → a' = a) (hup : up = true → a.raise name = .ok a')
    (rest : List String) : readFrom a (raised name up ++ rest) = readFrom a' rest := by
  cases up with
  | false => exact congrArg (readFrom · rest) (hdown rfl).symm
  | true =>
      have hstep : readFrom a (("--" ++ name) :: rest) = (do readFrom (← a.raise name) rest) := by
        conv => lhs; unfold readFrom
        rw [List.mem_cons, List.mem_singleton] at hname
        rcases hname with rfl | rfl
        · rw [show split? ("--" ++ "simulate") = some ("simulate", .none) by decide]
          rfl
        · rw [show split? ("--" ++ "print-config") = some ("print-config", .none) by decide]
          rfl
      refine hstep.trans ?_
      rw [hup rfl]
      rfl

/-- An option that is a number. -/
theorem readFrom_number {α : Type} [ToString α] {name : String} (hname : name ∈ valued)
    {value : Option α} {a a' : Arguments} (hnone : value = .none → a' = a)
    (hsome : ∀ n, value = some n → a.give name (toString n) = .ok a') (rest : List String) :
    readFrom a (given name (value.map toString) ++ rest) = readFrom a' rest := by
  refine readFrom_given hname (fun h => hnone (Option.map_eq_none_iff.mp h)) (fun v h => ?_) rest
  obtain ⟨n, hn, rfl⟩ := Option.map_eq_some_iff.mp h
  exact hsome n hn

theorem give_board {a : Arguments} (h : a.board = .none) (n : Int32) :
    a.give "board" (toString n) = .ok { a with board := some n } := by
  unfold give
  simp only [h, number?_board]
  show Except.ok { a with board := some (.ofInt n.toInt) } = _
  rw [Int32.ofInt_toInt]

theorem give_lowest {a : Arguments} (h : a.lowest = .none) (n : UInt8) :
    a.give "min" (toString n) = .ok { a with lowest := some n } := by
  unfold give
  simp only [h, number?_primary]
  show Except.ok { a with lowest := some (.ofNat n.toNat) } = _
  rw [UInt8.ofNat_toNat]

theorem give_highest {a : Arguments} (h : a.highest = .none) (n : UInt8) :
    a.give "max" (toString n) = .ok { a with highest := some n } := by
  unfold give
  simp only [h, number?_primary]
  show Except.ok { a with highest := some (.ofNat n.toNat) } = _
  rw [UInt8.ofNat_toNat]

/-- What is written is read as it was meant. -/
theorem read_written (a : Arguments) : read a.written = .ok (.run a) := by
  obtain ⟨config, board, lowest, highest, query, simulate, printConfig⟩ := a
  let a₁ : Arguments := { none with simulate }
  let a₂ : Arguments := { a₁ with printConfig }
  let a₃ : Arguments := { a₂ with query }
  let a₄ : Arguments := { a₃ with config }
  let a₅ : Arguments := { a₄ with board }
  let a₆ : Arguments := { a₅ with lowest }
  let a₇ : Arguments := { a₆ with highest }
  have hlast : given "max" (highest.map toString) = given "max" (highest.map toString) ++ [] :=
    (List.append_nil _).symm
  unfold read written
  rw [hlast]
  calc readFrom none _
      = readFrom a₁ _ := readFrom_raised (by decide) (by rintro rfl; rfl) (by rintro rfl; rfl) _
    _ = readFrom a₂ _ := readFrom_raised (by decide) (by rintro rfl; rfl) (by rintro rfl; rfl) _
    _ = readFrom a₃ _ := readFrom_given (by decide) (by rintro rfl; rfl) (by rintro v rfl; rfl) _
    _ = readFrom a₄ _ := readFrom_given (by decide) (by rintro rfl; rfl) (by rintro v rfl; rfl) _
    _ = readFrom a₅ _ := readFrom_number (by decide) (by rintro rfl; rfl)
        (by rintro n rfl; exact give_board rfl n) _
    _ = readFrom a₆ _ := readFrom_number (by decide) (by rintro rfl; rfl)
        (by rintro n rfl; exact give_lowest rfl n) _
    _ = readFrom a₇ [] := readFrom_number (by decide) (by rintro rfl; rfl)
        (by rintro n rfl; exact give_highest rfl n) _
    _ = .ok (.run a₇) := rfl

end Discovery.Arguments

end InstrumentBus
