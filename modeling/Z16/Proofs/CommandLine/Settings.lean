import Mathlib.Data.List.Induction
import Mathlib.Data.List.Perm.Basic
import Z16.Proofs.Decimal.Numerals
import Z16.CommandLine
import Z16.Proofs.Text.Numerals
import Z16.Proofs.Text.Pieces

/-!
# Settings on the command line

The settings of a run are written as options, in any order, in front of two dashes and the file. Each option is added
to what was found in front of it (`CommandLine.scan_arguments`), which succeeds if the numbers can be read and only
lines of input are repeated (`CommandLine.foldlM_add`). So settings are read back from the options that they are
written as, and those that are left to the variables from there (`CommandLine.settings_survive`).
-/

namespace Z16.CommandLine

inductive Written where
  | value (o : ValueOption) (text : String)
  | fast
  deriving DecidableEq, Repr

def ValueOption.name : ValueOption → String
  | .frequency => "frequency"
  | .maxSteps => "max-steps"
  | .input => "input"

def Written.argument : Written → String
  | .value o text => "--" ++ o.name ++ "=" ++ text
  | .fast => "--fast"

def Written.valueOf? (o : ValueOption) : Written → Option String
  | .value o' text => if o' = o then some text else none
  | .fast => none

def valuesOf (o : ValueOption) (written : List Written) : List String := written.filterMap (Written.valueOf? o)

theorem ofText_long (name value : String) (plain : '=' ∉ name.toList) :
    Argument.ofText ("--" ++ name ++ "=" ++ value) = .long name (some value) := by
  have text : ("--" ++ name ++ "=" ++ value).toList = '-' :: '-' :: (name.toList ++ '=' :: value.toList) := by
    simp [String.toList_append]
  have before : ∀ c ∈ name.toList, decide (c ≠ '=') = true := fun c mem =>
    decide_eq_true fun same => plain (same ▸ mem)
  have front : (name.toList ++ '=' :: value.toList).takeWhile (· ≠ '=') = name.toList :=
    Text.takeWhile_piece before (Text.stops_cons rfl)
  have behind : (name.toList ++ '=' :: value.toList).dropWhile (· ≠ '=') = '=' :: value.toList := by
    rw [List.dropWhile_append_of_pos before]
    rfl
  rw [Argument.ofText, text]
  -- The text goes on behind the two dashes, so it is a long option and nothing else.
  split
  next short => simp at short
  next rest _ same =>
    obtain rfl : name.toList ++ '=' :: value.toList = rest := (List.cons.inj (List.cons.inj same).2).2
    simp only [front, behind, String.ofList_toList]
  next letter _ _ other same => exact absurd (List.cons.inj (List.cons.inj same).2).1.symm other
  next other _ => exact (other _ rfl).elim

theorem option?_name (o : ValueOption) : Verb.run.option? o.name = some (.inl o) := by
  cases o <;> rfl

theorem equals_notMem_name (o : ValueOption) : '=' ∉ o.name.toList := by
  cases o <;> decide

def Found.add (found : Found) : Written → Except Rejection Found
  | .value o text => found.addValue o text
  | .fast => found.addFast

theorem scan_argument (found : Found) (w : Written) (rest : List String) :
    scan .run found .nothing (w.argument :: rest) =
      found.add w >>= fun next => scan .run next .nothing rest := by
  cases w with
  | value o text =>
    rw [scan, Written.argument, ofText_long _ _ (equals_notMem_name o)]
    simp only [option?_name]
    rfl
  | fast =>
    have form : Argument.ofText "--fast" = .long "fast" none := rfl
    rw [scan, Written.argument, form]
    rfl

theorem scan_arguments (found : Found) (written : List Written) (rest : List String) :
    scan .run found .nothing (written.map Written.argument ++ rest) =
      written.foldlM Found.add found >>= fun next => scan .run next .nothing rest := by
  induction written generalizing found with
  | nil => rfl
  | cons w written ih =>
    rw [List.map_cons, List.cons_append, scan_argument, List.foldlM_cons, bind_assoc]
    simp only [ih]

theorem scan_file {found : Found} {file : String} (nowhere : found.file = none) (named : file ≠ "") :
    scan .run found .nothing ["--", file] = .ok { found with file := some file } := by
  have form : Argument.ofText "--" = .separator := rfl
  rw [scan, form]
  simp only [scanOperands, nowhere]
  show found.addFile file = _
  rw [Found.addFile, if_neg named]

def collected (written : List Written) : Found where
  frequency := (valuesOf .frequency written).head?.bind fun text => (readFrequency text).toOption
  maxSteps := (valuesOf .maxSteps written).head?.bind fun text => (readSteps text).toOption
  fast := .fast ∈ written
  input := valuesOf .input written

structure Acceptable (written : List Written) : Prop where
  frequency : (valuesOf .frequency written).length ≤ 1
  maxSteps : (valuesOf .maxSteps written).length ≤ 1
  fast : written.count .fast ≤ 1
  readable : ∀ text ∈ valuesOf .frequency written, ∃ x, readFrequency text = .ok x
  countable : ∀ text ∈ valuesOf .maxSteps written, ∃ n, readSteps text = .ok n

@[simp]
theorem valuesOf_nil (o : ValueOption) : valuesOf o [] = [] := rfl

@[simp]
theorem valuesOf_append (o : ValueOption) (as bs : List Written) :
    valuesOf o (as ++ bs) = valuesOf o as ++ valuesOf o bs :=
  List.filterMap_append

@[simp]
theorem valuesOf_value (o o' : ValueOption) (text : String) :
    valuesOf o [.value o' text] = if o' = o then [text] else [] := by
  by_cases same : o' = o <;> simp [valuesOf, Written.valueOf?, same]

@[simp]
theorem valuesOf_fast (o : ValueOption) (written : List Written) : valuesOf o (.fast :: written) = valuesOf o written :=
  rfl

@[simp]
theorem valuesOf_map (o o' : ValueOption) (texts : List String) :
    valuesOf o (texts.map (.value o')) = if o' = o then texts else [] := by
  by_cases same : o' = o <;> simp [valuesOf, List.filterMap_map, Function.comp_def, Written.valueOf?, same]

@[simp]
theorem count_fast_map (o : ValueOption) (texts : List String) :
    (texts.map (Written.value o)).count .fast = 0 :=
  List.count_eq_zero.2 (by simp)

theorem Acceptable.of_append {as bs : List Written} (h : Acceptable (as ++ bs)) : Acceptable as := by
  obtain ⟨frequency, maxSteps, fast, readable, countable⟩ := h
  simp only [valuesOf_append, List.length_append, List.count_append, List.mem_append] at *
  exact ⟨by omega, by omega, by omega, fun text mem => readable text (.inl mem),
    fun text mem => countable text (.inl mem)⟩

theorem valuesOf_eq_nil {o : ValueOption} {written : List Written} {text : String}
    (once : (valuesOf o (written ++ [.value o text])).length ≤ 1) : valuesOf o written = [] := by
  simpa using once

theorem add_collected {written : List Written} {w : Written} (acceptable : Acceptable (written ++ [w])) :
    (collected written).add w = .ok (collected (written ++ [w])) := by
  cases w with
  | fast =>
    have new : .fast ∉ written := by
      have once := acceptable.fast
      rw [List.count_append, List.count_singleton_self] at once
      exact List.count_eq_zero.1 (by omega)
    simp [Found.add, Found.addFast, collected, new]
  | value o text =>
    cases o with
    | frequency =>
      have new := valuesOf_eq_nil acceptable.frequency
      obtain ⟨x, read⟩ := acceptable.readable text (by simp)
      simp [Found.add, Found.addValue, collected, new, read, Except.map, Except.toOption]
    | maxSteps =>
      have new := valuesOf_eq_nil acceptable.maxSteps
      obtain ⟨n, read⟩ := acceptable.countable text (by simp)
      simp [Found.add, Found.addValue, collected, new, read, Except.map, Except.toOption]
    | input => simp [Found.add, Found.addValue, collected]

theorem foldlM_add {written : List Written} (acceptable : Acceptable written) :
    written.foldlM Found.add {} = .ok (collected written) := by
  -- From the end, because an option must be new among those in front of it.
  induction written using List.reverseRecOn with
  | nil => rfl
  | append_singleton written w ih =>
    rw [List.foldlM_append, ih acceptable.of_append]
    show ((collected written).add w >>= fun next => pure next) = _
    rw [add_collected acceptable]
    rfl

theorem readNat?_toString (n : Nat) : Decimal.readNat? (toString n).toList = some n := by
  have digits : ∀ c ∈ (toString n).toList, c.isDigit = true := fun c mem => Text.isDigit_of_mem_toString mem
  have text : (toString n).toList = Nat.toDigits 10 n := by rw [Nat.toString_eq_repr, Nat.toList_repr]
  have unsigned : Decimal.readNat? (toString n).toList = Decimal.readDigits? (toString n).toList := by
    rw [Decimal.readNat?.eq_def]
    split
    next rest plus => exact absurd (digits '+' (plus ▸ List.mem_cons_self)) (by decide)
    next => rfl
  rw [unsigned, Decimal.readDigits?, text, Nat.ofDigitChars_ten_toDigits, if_pos]
  exact ⟨Nat.toDigits_ne_nil, List.all_eq_true.2 (text ▸ digits)⟩

theorem readSteps_toString {n : Nat} (small : n < 2 ^ 64) : readSteps (toString n) = .ok n := by
  simp only [readSteps, readNat?_toString]
  exact if_pos small

theorem readFrequency_of_read {text : String} {x : Decimal.Binary64}
    (reads : Decimal.Binary64.read? text.toList = some x) : readFrequency text = .ok x := by
  simp only [readFrequency, reads]

/-- The options that give settings: a frequency and a number of steps if they are not left to the variables, whether
to run fast, and lines of input. -/
def options (frequency? maxSteps? : Option String) (fast : Bool) (lines : List String) : List Written :=
  frequency?.toList.map (.value .frequency) ++ maxSteps?.toList.map (.value .maxSteps) ++
    (if fast then [.fast] else []) ++ lines.map (.value .input)

theorem valuesOf_options (o : ValueOption) (frequency? maxSteps? : Option String) (fast : Bool) (lines : List String) :
    valuesOf o (options frequency? maxSteps? fast lines) =
      match o with
      | .frequency => frequency?.toList
      | .maxSteps => maxSteps?.toList
      | .input => lines := by
  cases o <;> cases fast <;> simp [options]

theorem eq_toList_of_perm {α : Type} {xs : List α} {x? : Option α} (perm : xs.Perm x?.toList) : xs = x?.toList := by
  cases x? with
  | none => exact perm.eq_nil
  | some x => exact List.perm_singleton.1 perm

theorem withVariable_of_given {α : Type} {option? fallback : Option String} {read : String → Except Rejection α}
    {text : String} {x : α} (given : option?.or fallback = some text) (reads : read text = .ok x) :
    withVariable (option?.bind fun text => (read text).toOption) fallback read = .ok (some x) := by
  cases option? with
  | none =>
    rw [Option.none_or] at given
    rw [given]
    simp [withVariable, reads, Except.map]
  | some written =>
    obtain rfl : written = text := Option.some.inj given
    simp [withVariable, reads, Except.toOption]

theorem reads_of_given {α : Type} {option? fallback : Option String} {read : String → Except Rejection α}
    {text : String} {x : α} (given : option?.or fallback = some text) (reads : read text = .ok x) :
    ∀ written ∈ option?.toList, ∃ y, read written = .ok y := by
  cases option? with
  | none => exact nofun
  | some written =>
    obtain rfl : written = text := Option.some.inj given
    simpa using ⟨x, reads⟩

theorem parse_run {env : Environment} {args : List String} {found : Found} {file : String}
    {frequency : Decimal.Binary64} {maxSteps : Option Nat} (scanned : scan .run {} .nothing args = .ok found)
    (named : found.file = some file)
    (timed : withVariable found.frequency env.frequency readFrequency = .ok (some frequency))
    (limited : withVariable found.maxSteps env.maxSteps readSteps = .ok maxSteps) :
    parse env ("run" :: args) =
      .ok (.run file { frequency, maxSteps, fast := found.fast, input := found.input }) := by
  show Verb.run.invocation env args = _
  rw [Verb.invocation, scanned]
  show (withVariable found.frequency env.frequency readFrequency >>= _) = _
  rw [timed]
  show (withVariable found.maxSteps env.maxSteps readSteps >>= _) = _
  rw [limited]
  simp only [named]
  rfl

section

variable {frequency? maxSteps? : Option String} {fast : Bool} {lines : List String} {written : List Written}

theorem valuesOf_of_perm (arranged : written.Perm (options frequency? maxSteps? fast lines)) :
    valuesOf .frequency written = frequency?.toList ∧ valuesOf .maxSteps written = maxSteps?.toList := by
  have values (o : ValueOption) : (valuesOf o written).Perm (valuesOf o (options frequency? maxSteps? fast lines)) :=
    arranged.filterMap _
  have frequencies := values .frequency
  have limits := values .maxSteps
  rw [valuesOf_options] at frequencies limits
  exact ⟨eq_toList_of_perm frequencies, eq_toList_of_perm limits⟩

theorem count_fast_of_perm (arranged : written.Perm (options frequency? maxSteps? fast lines)) :
    written.count .fast = fast.toNat := by
  rw [arranged.count_eq]
  cases fast <;> simp [options]

theorem acceptable_of_perm (arranged : written.Perm (options frequency? maxSteps? fast lines))
    (readable : ∀ text ∈ frequency?.toList, ∃ x, readFrequency text = .ok x)
    (countable : ∀ text ∈ maxSteps?.toList, ∃ n, readSteps text = .ok n) : Acceptable written := by
  obtain ⟨frequencies, limits⟩ := valuesOf_of_perm arranged
  constructor
  · rw [frequencies]
    exact Option.length_toList_le
  · rw [limits]
    exact Option.length_toList_le
  · rw [count_fast_of_perm arranged]
    exact Bool.toNat_le fast
  · rwa [frequencies]
  · rwa [limits]

theorem collected_of_perm (arranged : written.Perm (options frequency? maxSteps? fast lines))
    (inOrder : valuesOf .input written = lines) :
    collected written =
      { frequency := frequency?.bind fun text => (readFrequency text).toOption
        maxSteps := maxSteps?.bind fun text => (readSteps text).toOption
        fast
        input := lines } := by
  obtain ⟨frequencies, limits⟩ := valuesOf_of_perm arranged
  have asked : decide (.fast ∈ written) = fast := by
    rw [Bool.eq_iff_iff, decide_eq_true_iff, ← List.count_pos_iff, count_fast_of_perm arranged]
    cases fast <;> decide
  simp only [collected, frequencies, limits, asked, inOrder, Option.head?_toList]

/-- However the options are arranged, as long as the lines of input keep their order, a run has the settings that they
and the variables give. A variable counts where the option is missing, and nowhere else is it looked at. -/
theorem settings_survive {file text : String} {frequency : Decimal.Binary64} {steps : Nat} {env : Environment}
    (named : file ≠ "") (reads : Decimal.Binary64.read? text.toList = some frequency) (small : steps < 2 ^ 64)
    (frequencyGiven : frequency?.or env.frequency = some text)
    (stepsGiven : maxSteps?.or env.maxSteps = some (toString steps))
    (arranged : written.Perm (options frequency? maxSteps? fast lines)) (inOrder : valuesOf .input written = lines) :
    parse env ("run" :: written.map Written.argument ++ ["--", file]) =
      .ok (.run file { frequency, maxSteps := some steps, fast, input := lines }) := by
  have readable := readFrequency_of_read reads
  have countable := readSteps_toString small
  have acceptable := acceptable_of_perm arranged (reads_of_given frequencyGiven readable)
    (reads_of_given stepsGiven countable)
  let found : Found := collected written
  have scanned : scan .run {} .nothing (written.map Written.argument ++ ["--", file]) =
      .ok { found with file := some file } := by
    have nowhere : found.file = none := rfl
    rw [scan_arguments, foldlM_add acceptable]
    exact scan_file nowhere named
  rw [show found = _ from collected_of_perm arranged inOrder] at scanned
  exact parse_run scanned rfl (withVariable_of_given frequencyGiven readable)
    (withVariable_of_given stepsGiven countable)

theorem settings_survive_crossed :
    let written : List Written := [.value .input "--", .fast, .value .input "", .value .maxSteps "7"]
    let env : Environment := { frequency := some "inf", maxSteps := some "no number" }
    written.Perm (options none (some "7") true ["--", ""]) ∧
      parse env ("run" :: written.map Written.argument ++ ["--", "-x"]) =
        .ok (.run "-x" ⟨⟨0x7FF0000000000000⟩, some 7, true, ["--", ""]⟩) := by
  intro written env
  have arranged : written.Perm (options none (some "7") true ["--", ""]) := by decide
  exact ⟨arranged, settings_survive (by decide) (by decide +kernel) (by decide) rfl rfl arranged rfl⟩

end

end Z16.CommandLine
