import MlflowOidcAuth.Library.Backtracking
import MlflowOidcAuth.Library.Binary64
import MlflowOidcAuth.Library.Effects
import MlflowOidcAuth.Library.TextSearch
import MlflowOidcAuth.PyFloat
import MlflowOidcAuth.Trash.Cleanup

/-! The age limit of the cleanup: the texts that its pattern lets through, the floats that are
made of their numbers, and the milliseconds that these come to. -/
namespace MlflowOidcAuth
open Backtracking Backtracking.Matcher Binary64 Effects

/-- The decimal digits of Unicode; the ASCII characters among them are the usual ten. -/
structure DecimalDigits where
  value : Char → Option Nat
  ascii : ∀ c, c.toNat < 128 → value c = if '0' ≤ c ∧ c ≤ '9' then some (c.toNat - 48) else none

inductive TimeUnit
  | days
  | hours
  | minutes
  | seconds
deriving DecidableEq, Repr

namespace TimeUnit

def all : List TimeUnit := [days,hours,minutes,seconds]

def letter : TimeUnit → Char
  | days => 'd'
  | hours => 'h'
  | minutes => 'm'
  | seconds => 's'

def lengthInSeconds : TimeUnit → Nat
  | days => 86400
  | hours => 3600
  | minutes => 60
  | seconds => 1

def microseconds (unit : TimeUnit) : Nat := 1000000 * unit.lengthInSeconds

end TimeUnit

section Numbers
variable (digits : DecimalDigits)

/-- The class of characters that a number is matched with. -/
def isNumberChar (c : Char) : Bool := c == '.' || (digits.value c).isSome

def digitsValue (symbols : List Char) : Nat :=
  symbols.foldl (fun value c => 10 * value + (digits.value c).getD 0) 0

/-- The decimal number that points and digits write, if they write one. -/
def readDecimal (symbols : List Char) : Option ℚ :=
  let whole := symbols.takeWhile (fun c => c != '.')
  let fraction := (symbols.dropWhile (fun c => c != '.')).drop 1
  if whole ++ fraction = [] ∨ '.' ∈ fraction then none
  else some (digitsValue digits (whole ++ fraction) / 10 ^ fraction.length)

def PyFloat.ofRat (x : ℚ) : PyFloat := (nearest x).elim (.infinite (decide (x < 0))) .finite

/-- The number of a float, where an integer is to be made of it. -/
def PyFloat.number : PyFloat → Except Failure ℚ
  | .finite value => .ok value
  | .infinite _ => .error (.other "cannot convert float infinity to integer")
  | .nan => .error (.other "cannot convert float NaN to integer")

/-- `float(param)` for points and digits. -/
def floatOf (param : List Char) : Except Failure PyFloat :=
  match readDecimal digits param with
  | some number => .ok (PyFloat.ofRat number)
  | none =>
    .error (.other ("could not convert string to float: '" ++ String.ofList param ++ "'"))

end Numbers

section Timedelta

/-- Whole microseconds so far, and the part of one that is left over as a float. -/
structure Microseconds where
  whole : Int
  leftover : ℚ

/-- An argument of `timedelta`: whole units are added exactly, their fraction as a float. -/
def addNumber (sofar : Microseconds) (param : TimeUnit × PyFloat) : Except Failure Microseconds := do
  let value ← param.2.number
  let whole := sofar.whole + PyFloat.truncate value * param.1.microseconds
  let fraction := value - PyFloat.truncate value
  if fraction = 0 then return ⟨whole,sofar.leftover⟩
  else
    let part ← (PyFloat.ofRat (param.1.microseconds * fraction)).number
    let leftover ← (PyFloat.ofRat (sofar.leftover + (part - PyFloat.truncate part))).number
    return ⟨whole + PyFloat.truncate part,leftover⟩

/-- The days of a `timedelta` are an integer of C and have a limit of their own. -/
def checkDays (microseconds : Int) : Except Failure Int :=
  let days := microseconds / 86400000000
  if 2147483647 < days ∨ days < -2147483648 then
    .error (.other "Python int too large to convert to C int")
  else if 999999999 < |days| then
    .error (.other ("days=" ++ toString days ++ "; must have magnitude <= 999999999"))
  else .ok microseconds

/-- `timedelta(**params)`, in microseconds; the smallest unit is added first. -/
def timedelta (params : List (TimeUnit × PyFloat)) : Except Failure Int := do
  let sum ← params.reverse.foldlM addNumber ⟨0,0⟩
  checkDays (halfEven (sum.whole + sum.leftover))

/-- `int(delta.total_seconds() * 1000)`. -/
def milliseconds (delta : Int) : Except Failure Int := do
  let totalSeconds ← (PyFloat.ofRat (delta / 1000000)).number
  (PyFloat.ofRat (totalSeconds * 1000)).toInt

end Timedelta

section Pattern
variable (digits : DecimalDigits)

/-- `((?P<days>[\.\d]+?)d)` and its siblings. -/
def unitPattern (unit : TimeUnit) : Matcher Char (List Char) :=
  ((lazyRun (isNumberChar digits)).andThen (symbol unit.letter)).map Prod.fst

/-- What the groups that matched have captured. -/
def timePattern : Matcher Char (List (TimeUnit × List Char)) :=
  ((groups (unitPattern digits) TimeUnit.all).andThen (lineEnd '\n')).map Prod.fst

def timeParam (part : TimeUnit × List Char) : Except Failure (TimeUnit × PyFloat) :=
  (floatOf digits part.2).map (fun number => (part.1,number))

def unparsedMessage (olderThan : String) : String :=
  "Could not parse any time information from '" ++ olderThan ++
    "'. Examples of valid strings: '8h', '2d8h5m20s', '2m4s'"

/-- `_parse_time_delta` -/
def parseTimeDelta (olderThan : String) : Except Failure Int :=
  match (timePattern digits).firstMatch olderThan.toList with
  | none => .error (.mlflow .invalidParameterValue (unparsedMessage olderThan))
  | some parts => do
    let timeParams ← parts.mapM (timeParam digits)
    let delta ← timedelta timeParams
    milliseconds delta

end Pattern

section Language
variable {digits : DecimalDigits} {unit : TimeUnit} {parts others : List (TimeUnit × List Char)}
  {text run rest : List Char}

def spelled (part : TimeUnit × List Char) : List Char := part.2 ++ [part.1.letter]

/-- Parts in the order of the units, each a letter after points and digits, and at most a newline
behind them. -/
structure WrittenAs (digits : DecimalDigits) (parts : List (TimeUnit × List Char))
    (text : List Char) : Prop where
  ordered : (parts.map Prod.fst).Sublist TimeUnit.all
  runs : ∀ part ∈ parts, part.2 ≠ [] ∧ ∀ c ∈ part.2, isNumberChar digits c = true
  written : ∃ ending, (ending = [] ∨ ending = ['\n']) ∧ text = parts.flatMap spelled ++ ending

theorem not_number {c : Char} (ascii : c.toNat < 128) (noPoint : c ≠ '.')
    (noDigit : ¬('0' ≤ c ∧ c ≤ '9')) : isNumberChar digits c = false := by
  rw [isNumberChar,digits.ascii c ascii,if_neg noDigit]
  simpa using noPoint

theorem letter_not_number : isNumberChar digits unit.letter = false := by
  cases unit <;> exact not_number (by decide) (by decide) (by decide)

theorem newline_not_number : isNumberChar digits '\n' = false :=
  not_number (by decide) (by decide) (by decide)

theorem letter_injective {other : TimeUnit} (same : unit.letter = other.letter) : unit = other := by
  revert same
  cases unit <;> cases other <;> decide

theorem mem_unitPattern : (run,rest) ∈ unitPattern digits unit text ↔
    run ≠ [] ∧ (∀ c ∈ run, isNumberChar digits c = true) ∧ text = run ++ unit.letter :: rest := by
  simp only [unitPattern,mem_map,Prod.exists,mem_andThen,mem_lazyRun,mem_symbol]
  constructor
  · rintro ⟨_,_,⟨between,⟨nonempty,all,rfl⟩,rfl,rfl⟩,rfl⟩
    exact ⟨nonempty,all,rfl⟩
  · rintro ⟨nonempty,all,rfl⟩
    exact ⟨run,_,⟨_,⟨nonempty,all,rfl⟩,rfl,rfl⟩,rfl⟩

theorem reads_iff : Reads (unitPattern digits) parts text rest ↔
    (∀ part ∈ parts, part.2 ≠ [] ∧ ∀ c ∈ part.2, isNumberChar digits c = true) ∧
      text = parts.flatMap spelled ++ rest := by
  induction parts generalizing text with
  | nil =>
    constructor
    · intro reads
      cases reads
      simp
    · rintro ⟨_,rfl⟩
      exact .nil
  | cons part parts ih =>
    constructor
    · intro reads
      cases reads with
      | cons read later =>
        obtain ⟨nonempty,all,rfl⟩ := mem_unitPattern.mp read
        obtain ⟨runs,rfl⟩ := ih.mp later
        refine ⟨List.forall_mem_cons.mpr ⟨⟨nonempty,all⟩,runs⟩,?_⟩
        simp [spelled]
    · rintro ⟨runs,rfl⟩
      obtain ⟨⟨nonempty,all⟩,runs⟩ := List.forall_mem_cons.mp runs
      have read : (part.2,parts.flatMap spelled ++ rest) ∈
          unitPattern digits part.1 ((part :: parts).flatMap spelled ++ rest) :=
        mem_unitPattern.mpr ⟨nonempty,all,by simp [spelled]⟩
      exact .cons read (ih.mpr ⟨runs,rfl⟩)

theorem mem_timePattern :
    (∃ rest, (parts,rest) ∈ timePattern digits text) ↔ WrittenAs digits parts text := by
  simp only [timePattern,mem_map,Prod.exists,mem_andThen,mem_groups,reads_iff,mem_lineEnd]
  constructor
  · rintro ⟨rest,_,_,⟨ending,⟨ordered,runs,written⟩,rfl,ends⟩,rfl⟩
    exact ⟨ordered,runs,_,ends,written⟩
  · rintro ⟨ordered,runs,ending,ends,written⟩
    exact ⟨ending,parts,(),⟨ending,⟨ordered,runs,written⟩,rfl,ends⟩,rfl⟩

theorem spelled_cons (part : TimeUnit × List Char) :
    (part :: parts).flatMap spelled ++ rest =
      part.2 ++ part.1.letter :: (parts.flatMap spelled ++ rest) := by
  simp [spelled]

/-- A run of number characters is not where the text ends. -/
theorem ending_no_run {ending : List Char} (ends : ending = [] ∨ ending = ['\n'])
    (nonempty : run ≠ []) (all : ∀ c ∈ run, isNumberChar digits c = true) :
    ending ≠ run ++ rest := by
  intro same
  cases run with
  | nil => exact nonempty rfl
  | cons c run =>
    rcases ends with rfl | rfl
    · cases same
    · obtain ⟨rfl,_⟩ := List.cons_eq_cons.mp same
      have number := all '\n' List.mem_cons_self
      rw [newline_not_number] at number
      cases number

/-- No letter is a number character, so a text can be cut in one way only. -/
theorem parts_unique {ending ending' : List Char} (ends : ending = [] ∨ ending = ['\n'])
    (ends' : ending' = [] ∨ ending' = ['\n'])
    (runs : ∀ part ∈ parts, part.2 ≠ [] ∧ ∀ c ∈ part.2, isNumberChar digits c = true)
    (runs' : ∀ part ∈ others, part.2 ≠ [] ∧ ∀ c ∈ part.2, isNumberChar digits c = true)
    (same : parts.flatMap spelled ++ ending = others.flatMap spelled ++ ending') :
    parts = others := by
  induction parts generalizing others with
  | nil =>
    cases others with
    | nil => rfl
    | cons part others =>
      rw [spelled_cons] at same
      obtain ⟨⟨nonempty,all⟩,_⟩ := List.forall_mem_cons.mp runs'
      exact absurd same (ending_no_run ends nonempty all)
  | cons part parts ih =>
    obtain ⟨⟨nonempty,all⟩,runs⟩ := List.forall_mem_cons.mp runs
    cases others with
    | nil =>
      rw [spelled_cons] at same
      exact absurd same.symm (ending_no_run ends' nonempty all)
    | cons other others =>
      obtain ⟨⟨_,all'⟩,runs'⟩ := List.forall_mem_cons.mp runs'
      rw [spelled_cons,spelled_cons] at same
      have cut : _ = part.2 ∧ _ = part.1.letter :: (parts.flatMap spelled ++ ending) :=
        TextSearch.cut_of_run letter_not_number all
      have cut' : _ = other.2 ∧ _ = other.1.letter :: (others.flatMap spelled ++ ending') :=
        TextSearch.cut_of_run letter_not_number all'
      rw [same,cut'.1,cut'.2] at cut
      obtain ⟨sameLetter,later⟩ := List.cons_eq_cons.mp cut.2
      have samePart : part = other := Prod.ext (letter_injective sameLetter.symm) cut.1.symm
      rw [samePart,ih runs runs' later.symm]

theorem written_unique (first : WrittenAs digits parts text)
    (second : WrittenAs digits others text) : parts = others := by
  obtain ⟨_,runs,ending,ends,written⟩ := first
  obtain ⟨_,runs',ending',ends',written'⟩ := second
  exact parts_unique ends ends' runs runs' (written.symm.trans written')

theorem firstMatch_of_written (written : WrittenAs digits parts text) :
    (timePattern digits).firstMatch text = some parts := by
  obtain ⟨rest,read⟩ := mem_timePattern.mpr written
  apply firstMatch_of_unique read
  intro other left read'
  exact written_unique (mem_timePattern.mp ⟨left,read'⟩) written

theorem firstMatch_of_unwritten (unwritten : ∀ parts, ¬WrittenAs digits parts text) :
    (timePattern digits).firstMatch text = none := by
  apply firstMatch_eq_none.mpr
  intro parts rest read
  exact unwritten parts (mem_timePattern.mp ⟨rest,read⟩)

end Language
end MlflowOidcAuth
