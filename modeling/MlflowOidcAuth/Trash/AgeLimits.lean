import MlflowOidcAuth.Trash.TimeTotals

/-! The durations of the documented format, how close the age limit comes to their total, and
which texts the cleanup reads as documented. -/
namespace MlflowOidcAuth
open Backtracking Backtracking.Matcher Binary64 Effects

section Decimals
variable {digits : DecimalDigits} {number : List Char}

/-- A decimal number has digits and at most one point. -/
structure WellFormed (digits : DecimalDigits) (number : List Char) : Prop where
  symbols : ∀ c ∈ number, isNumberChar digits c = true
  points : number.count '.' ≤ 1
  digit : ∃ c ∈ number, c ≠ '.'

def decimalValue (digits : DecimalDigits) (number : List Char) : ℚ :=
  (readDecimal digits number).getD 0

theorem decimalValue_nonneg : 0 ≤ decimalValue digits number := by
  unfold decimalValue readDecimal
  dsimp only
  split
  · exact le_refl 0
  · rw [Option.getD_some]
    positivity

theorem readDecimal_whole (plain : '.' ∉ number) :
    readDecimal digits number = none ↔ number = [] := by
  have all := TextSearch.plain_of_ne plain
  have whole : number.takeWhile (fun c => c != '.') = number := List.takeWhile_eq_self_iff.mpr all
  have rest : number.dropWhile (fun c => c != '.') = [] := List.dropWhile_eq_nil_iff.mpr all
  simp [readDecimal,whole,rest]

theorem readDecimal_pointed {whole fraction : List Char} (plain : '.' ∉ whole) :
    readDecimal digits (whole ++ '.' :: fraction) = none ↔
      whole ++ fraction = [] ∨ '.' ∈ fraction := by
  obtain ⟨before,after⟩ := @TextSearch.cut_at Char whole fraction _ '.' plain
  simp only [readDecimal,before,after,List.drop_succ_cons,List.drop_zero]
  split
  · next malformed => exact iff_of_true rfl malformed
  · next formed => exact iff_of_false (Option.some_ne_none _) formed

/-- A text of points and digits is a number exactly when it has a digit and at most one point. -/
theorem readDecimal_none_iff :
    readDecimal digits number = none ↔ ¬(number.count '.' ≤ 1 ∧ ∃ c ∈ number, c ≠ '.') := by
  by_cases pointed : '.' ∈ number
  · obtain ⟨whole,fraction,rfl,plain⟩ := List.eq_append_cons_of_mem pointed
    have points : (whole ++ '.' :: fraction).count '.' = fraction.count '.' + 1 := by
      rw [List.count_append,List.count_eq_zero_of_not_mem plain,List.count_cons_self,Nat.zero_add]
    rw [readDecimal_pointed plain,points]
    by_cases second : '.' ∈ fraction
    · have more := List.count_pos_iff.mpr second
      exact iff_of_true (.inr second) (fun bounds => absurd bounds.1 (by omega))
    · have none' := List.count_eq_zero_of_not_mem second
      rw [or_iff_left second,none']
      constructor
      · rintro empty ⟨_,c,member,other⟩
        obtain ⟨rfl,rfl⟩ := List.append_eq_nil_iff.mp empty
        exact other (List.mem_singleton.mp member)
      · intro missing
        apply List.eq_nil_iff_forall_not_mem.mpr
        intro c member
        apply missing
        refine ⟨Nat.le_refl _,c,?_,?_⟩
        · rcases List.mem_append.mp member with left | right
          · exact List.mem_append_left _ left
          · exact List.mem_append_right _ (List.mem_cons_of_mem _ right)
        · rintro rfl
          exact (List.mem_append.mp member).elim plain second
  · have none' := List.count_eq_zero_of_not_mem pointed
    rw [readDecimal_whole pointed,none']
    constructor
    · rintro rfl ⟨_,c,member,_⟩
      cases member
    · intro missing
      apply List.eq_nil_iff_forall_not_mem.mpr
      intro c member
      exact missing ⟨Nat.zero_le _,c,member,fun same => pointed (same ▸ member)⟩

theorem readDecimal_of_wellFormed (wellFormed : WellFormed digits number) :
    readDecimal digits number = some (decimalValue digits number) := by
  cases read : readDecimal digits number with
  | none => exact absurd ⟨wellFormed.points,wellFormed.digit⟩ (readDecimal_none_iff.mp read)
  | some value => rw [decimalValue,read,Option.getD_some]

end Decimals

/-- What the documented format writes: numbers of units, each unit at most once and in order, and
one of them at least. -/
structure Duration (digits : DecimalDigits) where
  parts : List (TimeUnit × List Char)
  ordered : (parts.map Prod.fst).Sublist TimeUnit.all
  decimals : ∀ part ∈ parts, WellFormed digits part.2
  present : parts ≠ []

namespace Duration
variable {digits : DecimalDigits} (duration : Duration digits)

def text : String := String.ofList (duration.parts.flatMap spelled)

def numbers : List (TimeUnit × ℚ) :=
  duration.parts.map (fun part => (part.1,decimalValue digits part.2))

/-- The exact total, in milliseconds. -/
def total : ℚ := totalSeconds duration.numbers * 1000

/-- A `timedelta` holds the duration. -/
def Held : Prop := ∃ delta, timedelta (duration.numbers.map floatParam) = .ok delta

/-- The total without its fraction, as binary floats come to it; where no float is rounded, the
total itself. -/
structure IsTotal (limit : Int) : Prop where
  close : ∃ x : ℚ, limit = ⌊x⌋ ∧ |x - duration.total| ≤ 1 / 1000 + duration.total / 2 ^ 51
  exact : (∀ number ∈ duration.numbers, nearest number.2 = some number.2 ∧
    ∃ amount : Nat, number.2 * number.1.lengthInSeconds = amount) →
    duration.total < 2 ^ 53 → (limit : ℚ) = duration.total

theorem numbers_nonneg : ∀ number ∈ duration.numbers, 0 ≤ number.2 := by
  intro number member
  obtain ⟨part,_,rfl⟩ := List.mem_map.mp member
  exact decimalValue_nonneg

theorem few_numbers : duration.numbers.length ≤ 4 := by
  have length := duration.ordered.length_le
  rw [List.length_map] at length
  rw [numbers,List.length_map]
  exact length

theorem written : WrittenAs digits duration.parts duration.text.toList := by
  refine ⟨duration.ordered,?_,[],.inl rfl,?_⟩
  · intro part member
    have decimal := duration.decimals part member
    obtain ⟨c,inside,_⟩ := decimal.digit
    exact ⟨List.ne_nil_of_mem inside,decimal.symbols⟩
  · rw [text,String.toList_ofList,List.append_nil]

theorem total_nonneg : 0 ≤ duration.total :=
  mul_nonneg (totalSeconds_nonneg duration.numbers_nonneg) (by norm_num)

theorem isTotal_of_made {delta : Int}
    (made : timedelta (duration.numbers.map floatParam) = .ok delta) :
    ∃ limit, milliseconds delta = .ok limit ∧ duration.IsTotal limit := by
  obtain ⟨x,computed,close⟩ := limit_close duration.numbers_nonneg duration.few_numbers made
  refine ⟨⌊x⌋,computed,⟨x,rfl,close⟩,?_⟩
  intro exact small
  obtain ⟨total,computed',same⟩ := limit_exact duration.numbers_nonneg
    (fun number member => (exact number member).1) (fun number member => (exact number member).2)
    small made
  rw [computed,Except.ok.injEq] at computed'
  rw [computed']
  exact same

/-- A duration is held up to a day below the limit, and never from a day above it. -/
theorem held_of_total (small : duration.total ≤ 999999999 * 86400000) : duration.Held := by
  apply timedelta_of_total duration.numbers_nonneg duration.few_numbers
  rw [total] at small
  linarith

theorem total_of_held (held : duration.Held) : duration.total < 1000000001 * 86400000 := by
  obtain ⟨delta,made⟩ := held
  have bound := timedelta_total duration.numbers_nonneg duration.few_numbers made
  rw [total]
  linarith

theorem total_of_zero (zero : duration.IsTotal 0) : duration.total < 1 + 1 / 500 := by
  obtain ⟨x,same,close⟩ := zero.close
  have below := Int.lt_floor_add_one x
  rw [← same,Int.cast_zero,zero_add] at below
  rw [abs_le] at close
  norm_num at close ⊢
  linarith

end Duration

section Limits
variable {digits : DecimalDigits} {text : String} {parts : List (TimeUnit × List Char)}

/-- The pattern lets the text through. -/
def LetThrough (digits : DecimalDigits) (text : String) : Prop :=
  ∃ parts, WrittenAs digits parts text.toList

theorem parse_of_written (written : WrittenAs digits parts text.toList) :
    parseTimeDelta digits text =
      parts.mapM (timeParam digits) >>= fun params => timedelta params >>= milliseconds := by
  rw [parseTimeDelta,firstMatch_of_written written]

theorem parse_of_stopped (stopped : ¬LetThrough digits text) : parseTimeDelta digits text =
    .error (.mlflow .invalidParameterValue (unparsedMessage text)) := by
  have unmatched : (timePattern digits).firstMatch text.toList = none :=
    firstMatch_of_unwritten (fun parts written => stopped ⟨parts,written⟩)
  rw [parseTimeDelta,unmatched]

theorem timeParams_of_duration (duration : Duration digits) :
    duration.parts.mapM (timeParam digits) = .ok (duration.numbers.map floatParam) := by
  rw [mapM_eq_ok,Duration.numbers,List.map_map,List.forall₂_map_right_iff]
  apply List.forall₂_same.mpr
  intro part member
  rw [timeParam,floatOf,readDecimal_of_wellFormed (duration.decimals part member)]
  rfl

theorem parse_of_duration (duration : Duration digits) : parseTimeDelta digits duration.text =
    timedelta (duration.numbers.map floatParam) >>= milliseconds := by
  rw [parse_of_written duration.written,timeParams_of_duration]
  rfl

/-- What a function of the standard library raises. -/
def Foreign (failure : Failure) : Prop := failure.isMlflow = false

theorem number_raises (float : PyFloat) : RaisesOnly Foreign float.number := by
  cases float with
  | finite value => exact raisesOnly_ok value
  | infinite negative => exact raisesOnly_error rfl
  | nan => exact raisesOnly_error rfl

theorem toInt_raises (float : PyFloat) : RaisesOnly Foreign float.toInt := by
  cases float with
  | finite value => exact raisesOnly_ok _
  | infinite negative => exact raisesOnly_error rfl
  | nan => exact raisesOnly_error rfl

theorem timeParam_raises (part : TimeUnit × List Char) :
    RaisesOnly Foreign (timeParam digits part) := by
  unfold timeParam floatOf
  split
  · exact raisesOnly_ok _
  · exact raisesOnly_error rfl

theorem addNumber_raises (sofar : Microseconds) (param : TimeUnit × PyFloat) :
    RaisesOnly Foreign (addNumber sofar param) := by
  unfold addNumber
  apply (number_raises _).bind
  intro value _
  apply RaisesOnly.ite
  · exact raisesOnly_ok _
  · apply (number_raises _).bind
    intro part _
    apply (number_raises _).bind
    intro leftover _
    exact raisesOnly_ok _

theorem checkDays_raises (sum : Int) : RaisesOnly Foreign (checkDays sum) := by
  unfold checkDays
  dsimp only
  apply RaisesOnly.ite
  · exact raisesOnly_error rfl
  · apply RaisesOnly.ite
    · exact raisesOnly_error rfl
    · exact raisesOnly_ok _

/-- Once the pattern matches, no exception is one that the cleanup answers as the client's. -/
theorem parse_raises (through : LetThrough digits text) :
    RaisesOnly Foreign (parseTimeDelta digits text) := by
  obtain ⟨parts,written⟩ := through
  rw [parse_of_written written]
  apply (raisesOnly_mapM (fun part _ => timeParam_raises part)).bind
  intro params _
  apply RaisesOnly.bind
  · apply (raisesOnly_foldlM (fun sofar param _ => addNumber_raises sofar param) _).bind
    intro sum _
    exact checkDays_raises _
  · intro delta _
    apply (number_raises _).bind
    intro seconds _
    exact toInt_raises _

/-- Documented texts give their total, and all others are the client's error. -/
structure MeetsFormat (digits : DecimalDigits) (text : String) : Prop where
  accepted : ∀ duration : Duration digits, duration.text = text →
    ∃ limit, parseTimeDelta digits text = .ok limit ∧ duration.IsTotal limit
  refused : (∀ duration : Duration digits, duration.text ≠ text) →
    parseTimeDelta digits text = .error (.mlflow .invalidParameterValue (unparsedMessage text))
  clientError : (∀ duration : Duration digits, duration.text ≠ text) →
    ∀ (State : Type) (store : TrackingStore State) (request : CleanupRequest) (state : State),
      store.hasHardDeleteRun = true → request.olderThan = some text →
      request.parseTimeDelta = parseTimeDelta digits →
      permanentlyDeleteAllTrashedEntities store request state =
        (.refused 400 "Invalid time format",state)
  zero : parseTimeDelta digits text = .ok 0 →
    ∃ duration : Duration digits, duration.text = text ∧ duration.total < 1 + 1 / 500

theorem meetsFormat_of_stopped (stopped : ¬LetThrough digits text) : MeetsFormat digits text := by
  have undocumented : ∀ duration : Duration digits, duration.text ≠ text := by
    intro duration same
    exact stopped ⟨duration.parts,same ▸ duration.written⟩
  have raised := parse_of_stopped stopped
  constructor
  · intro duration same
    exact absurd same (undocumented duration)
  · intro _
    exact raised
  · intro _ State store request state hard asked parser
    have delta : request.timeDelta =
        .error (.mlflow .invalidParameterValue (unparsedMessage text)) := by
      rw [CleanupRequest.timeDelta,asked]
      exact (congrFun parser text).trans raised
    rw [permanentlyDeleteAllTrashedEntities,hard,delta]
    rfl
  · intro zero
    rw [raised] at zero
    cases zero

theorem meetsFormat_of_held (duration : Duration digits) (held : duration.Held) :
    MeetsFormat digits duration.text := by
  obtain ⟨delta,made⟩ := held
  obtain ⟨limit,computed,isTotal⟩ := duration.isTotal_of_made made
  have parsed : parseTimeDelta digits duration.text = .ok limit := by
    rw [parse_of_duration,made]
    exact computed
  constructor
  · intro other same
    have sameParts : other.parts = duration.parts :=
      written_unique (same ▸ other.written) duration.written
    have sameDuration : other = duration := by
      cases other
      cases duration
      cases sameParts
      rfl
    rw [sameDuration]
    exact ⟨limit,parsed,isTotal⟩
  · intro undocumented
    exact absurd rfl (undocumented duration)
  · intro undocumented
    exact absurd rfl (undocumented duration)
  · intro zero
    rw [parsed,Except.ok.injEq] at zero
    exact ⟨duration,rfl,duration.total_of_zero (zero ▸ isTotal)⟩

theorem held_of_parsed (duration : Duration digits) {limit : Int}
    (parsed : parseTimeDelta digits duration.text = .ok limit) : duration.Held := by
  rw [parse_of_duration] at parsed
  obtain ⟨delta,made,_⟩ := bind_ok parsed
  exact ⟨delta,made⟩

/-- A text is read as documented exactly when it is documented and a `timedelta` holds it, or
the pattern stops it. -/
theorem meetsFormat_iff (digits : DecimalDigits) (text : String) : MeetsFormat digits text ↔
    (∃ duration : Duration digits, duration.text = text ∧ duration.Held) ∨
      ¬LetThrough digits text := by
  constructor
  · intro meets
    by_cases through : LetThrough digits text
    · left
      by_contra none'
      by_cases documented : ∃ duration : Duration digits, duration.text = text
      · obtain ⟨duration,rfl⟩ := documented
        obtain ⟨limit,parsed,_⟩ := meets.accepted duration rfl
        exact none' ⟨duration,rfl,held_of_parsed duration parsed⟩
      · have raised := meets.refused (fun duration same => documented ⟨duration,same⟩)
        have foreign := parse_raises through _ raised
        cases foreign
    · exact .inr through
  · intro condition
    rcases condition with ⟨duration,rfl,held⟩ | stopped
    · exact meetsFormat_of_held duration held
    · exact meetsFormat_of_stopped stopped

end Limits

section Malformed

def asciiDigits : DecimalDigits where
  value := fun c => if '0' ≤ c ∧ c ≤ '9' then some (c.toNat - 48) else none
  ascii := fun _ _ => rfl

example : parseTimeDelta asciiDigits "1.2.3h" =
    .error (.other "could not convert string to float: '1.2.3'") := by decide +kernel

/-- The class of a number lets through what is no number. -/
theorem malformed_let_through : ¬∀ digits text, MeetsFormat digits text := by
  intro meets
  have points : "1.2.3".toList.all (isNumberChar asciiDigits) = true := by decide
  have written : WrittenAs asciiDigits [(.hours,"1.2.3".toList)] "1.2.3h".toList := by
    refine ⟨by decide,?_,[],.inl rfl,by decide⟩
    intro part member
    obtain rfl := List.mem_singleton.mp member
    exact ⟨by decide,List.all_eq_true.mp points⟩
  have undocumented : ∀ duration : Duration asciiDigits, duration.text ≠ "1.2.3h" := by
    intro duration same
    have cut : duration.parts = [(.hours,"1.2.3".toList)] :=
      written_unique (same ▸ duration.written) written
    have decimal : WellFormed asciiDigits "1.2.3".toList :=
      duration.decimals (.hours,"1.2.3".toList) (cut ▸ List.mem_cons_self)
    exact absurd decimal.points (by decide)
  have raised := (meets asciiDigits "1.2.3h").refused undocumented
  have foreign := parse_raises ⟨_,written⟩ _ raised
  cases foreign

end Malformed
end MlflowOidcAuth
