import Mathlib
import MlflowOidcAuth.Library.TextSearch
import MlflowOidcAuth.Regex
import MlflowOidcAuth.Tracking

/-! What the GraphQL middleware reads out of a filter string: by two patterns, a value
compared with a key and the list a key is looked for in. -/
namespace MlflowOidcAuth
open TextSearch

/-- Characters as `re` takes them when it ignores case. -/
structure FilterChars extends CharClasses where
  sameLetter : Char → Char → Bool
  same_ascii : ∀ c d, c.toNat < 128 → d.toNat < 128 →
    sameLetter c d = decide (c.toLower = d.toLower)
  same_word : ∀ c d, sameLetter c d = true → word c = true → word d = true
  space_word : ∀ c, isPythonSpace c = true → word c = false

section Plain
variable {c : Char}

theorem word_toLower : CharClasses.ascii.word c.toLower = CharClasses.ascii.word c := by
  by_cases upper : c.isUpper = true
  · have alpha : c.isAlpha = true := by rw [Char.isAlpha,upper,Bool.true_or]
    simp only [CharClasses.ascii,Char.isAlphanum,Char.isAlpha_toLower_eq_isAlpha,alpha,
      Bool.true_or]
  · rw [Char.toLower_eq_of_not_isUpper upper]

theorem space_not_word (space : isPythonSpace c = true) : CharClasses.ascii.word c = false := by
  by_contra word
  simp only [isPythonSpace,Bool.or_eq_true,decide_eq_true_eq,List.mem_cons,List.not_mem_nil,
    or_false,Char.toNat] at space
  simp only [CharClasses.ascii,Bool.not_eq_false,Char.isAlphanum,Char.isAlpha,Char.isUpper,
    Char.isLower,Char.isDigit,Bool.or_eq_true,Bool.and_eq_true,decide_eq_true_eq,ge_iff_le,
    UInt32.le_iff_toNat_le,beq_iff_eq] at word
  have upperA : 'A'.val.toNat = 65 := rfl
  have upperZ : 'Z'.val.toNat = 90 := rfl
  have lowerA : 'a'.val.toNat = 97 := rfl
  have lowerZ : 'z'.val.toNat = 122 := rfl
  have zero : '0'.val.toNat = 48 := rfl
  have nine : '9'.val.toNat = 57 := rfl
  obtain word | rfl := word
  · omega
  · revert space
    decide

/-- Without letters beyond ASCII. -/
def FilterChars.plain : FilterChars where
  toCharClasses := .ascii
  sameLetter := fun c d => decide (c.toLower = d.toLower)
  same_ascii := fun _ _ _ _ => rfl
  same_word := by
    intro c d same word
    rw [← word_toLower,← of_decide_eq_true same,word_toLower,word]
  space_word := fun _ => space_not_word

end Plain

def isQuote (c : Char) : Bool := c == '\'' || c == '"'

namespace FilterChars
variable (chars : FilterChars)

/-- `\bkey\b`: what follows the key, if no word runs into it or on from it. -/
def keyAt (same : Char → Char → Bool) (key : List Char) (previous : Option Char)
    (text : List Char) : Option (List Char) :=
  if previous.any chars.word then none
  else (dropAs same key text).filter (fun rest => !rest.head?.any chars.word)

/-- `\bkey\b\s*=\s*(['"])(?P<val>[^'"]+)\1`. -/
def equalityAt (key : List Char) (previous : Option Char) (text : List Char) :
    Option (List Char) :=
  (chars.keyAt (fun c d => decide (c = d)) key previous text).bind (fun rest =>
    (skipTo isPythonSpace (fun c => decide (c = '=')) rest).bind (fun sign =>
      (skipTo isPythonSpace isQuote sign.2).bind (fun quoted =>
        (runTo quoted.1 (fun c => !isQuote c) quoted.2).map Prod.fst)))

/-- `\bkey\b\s+IN\s*\((?P<vals>[^)]+)\)`, in upper or lower case. -/
def inListAt (key : List Char) (previous : Option Char) (text : List Char) :
    Option (List Char) :=
  (chars.keyAt chars.sameLetter key previous text).bind (fun rest =>
    if rest.head?.any isPythonSpace then
      (dropAs chars.sameLetter "IN".toList (rest.dropWhile isPythonSpace)).bind (fun list =>
        (skipTo isPythonSpace (fun c => decide (c = '(')) list).bind (fun opened =>
          (runTo ')' (fun c => decide (c ≠ ')')) opened.2).map Prod.fst))
    else none)

end FilterChars

/-- A piece between commas that is quoted, without its quotes. -/
def quotedItem (piece : List Char) : Option (List Char) :=
  let token := (strip piece).toList
  if 2 ≤ token.length ∧ token.head?.any isQuote = true ∧ token.getLast? = token.head? then
    some (token.drop 1).dropLast
  else none

def firstQuoted (vals : List Char) : Option (List Char) :=
  (vals.splitOn ',').findSome? quotedItem

def extractFirstFilterValue (chars : FilterChars) (filterStr : String) (key : List Char) :
    Option String :=
  ((search (chars.equalityAt key) none filterStr.toList).orElse (fun _ =>
    (search (chars.inListAt key) none filterStr.toList).bind firstQuoted)).map String.ofList

/-- The key, an equals sign and a quoted value stand here; no word runs into the key. -/
inductive EqualityAt (chars : FilterChars) (key : List Char) :
    Option Char → List Char → List Char → Prop
  | intro {previous : Option Char} {before after value rest : List Char} {quote : Char}
      (apart : previous.any chars.word = false)
      (spaces : ∀ c ∈ before ++ after, isPythonSpace c = true)
      (quotes : isQuote quote = true) (nonempty : value ≠ [])
      (plain : ∀ c ∈ value, isQuote c = false) :
      EqualityAt chars key previous
        (key ++ (before ++ '=' :: (after ++ quote :: (value ++ quote :: rest)))) value

/-- The key, `IN` and a bracketed list stand here, in upper or lower case. -/
inductive InListAt (chars : FilterChars) (key : List Char) :
    Option Char → List Char → List Char → Prop
  | intro {previous : Option Char} {keyword before operator after vals rest : List Char}
      (apart : previous.any chars.word = false)
      (isKey : List.Forall₂ (fun c d => chars.sameLetter c d = true) key keyword)
      (nonempty : before ≠ [] ∧ vals ≠ [])
      (spaces : ∀ c ∈ before ++ after, isPythonSpace c = true)
      (isIn : List.Forall₂ (fun c d => chars.sameLetter c d = true) "IN".toList operator)
      (closes : ∀ c ∈ vals, c ≠ ')') :
      InListAt chars key previous
        (keyword ++ (before ++ (operator ++ (after ++ '(' :: (vals ++ ')' :: rest))))) vals

/-- The value that a filter names first for a key: in an equality, else in a list. -/
def NamesFirst (chars : FilterChars) (filterStr : String) (key value : List Char) : Prop :=
  Leftmost (EqualityAt chars key) none filterStr.toList value ∨
    (∀ other, ¬ Leftmost (EqualityAt chars key) none filterStr.toList other) ∧
      ∃ vals, Leftmost (InListAt chars key) none filterStr.toList vals ∧
        firstQuoted vals = some value

section Patterns
variable {chars : FilterChars} {key text value : List Char} {previous : Option Char}

theorem dropAs_eq {word rest : List Char} :
    dropAs (fun c d => decide (c = d)) word text = some rest ↔ text = word ++ rest := by
  simp only [dropAs_eq_some,decide_eq_true_eq,List.forall₂_eq_eq_eq,exists_eq_left']

theorem keyAt_eq_some {same : Char → Char → Bool} {rest : List Char} :
    chars.keyAt same key previous text = some rest ↔ previous.any chars.word = false ∧
      dropAs same key text = some rest ∧ rest.head?.any chars.word = false := by
  simp only [FilterChars.keyAt,Option.ite_none_left_eq_some,Bool.not_eq_true,
    Option.filter_eq_some_iff,Bool.not_eq_true']

theorem head_apart (chars : FilterChars) {spaces rest : List Char} {c : Char}
    (all : ∀ d ∈ spaces, isPythonSpace d = true) (sign : chars.word c = false) :
    (spaces ++ c :: rest).head?.any chars.word = false := by
  cases spaces with
  | nil => exact sign
  | cons d spaces => exact chars.space_word d (all d List.mem_cons_self)

theorem quote_not_space {c : Char} (quote : isQuote c = true) : isPythonSpace c = false := by
  simp only [isQuote,Bool.or_eq_true,beq_iff_eq] at quote
  obtain rfl | rfl := quote <;> decide

theorem sign_not_space {sign c : Char} (solid : isPythonSpace sign = false)
    (same : decide (c = sign) = true) : isPythonSpace c = false := by
  rw [of_decide_eq_true same]
  exact solid

theorem runTo_quoted {quote : Char} {run rest : List Char} (quotes : isQuote quote = true) :
    runTo quote (fun c => !isQuote c) text = some (run,rest) ↔
      run ≠ [] ∧ (∀ c ∈ run, isQuote c = false) ∧ text = run ++ quote :: rest := by
  rw [runTo_eq_some (by rw [quotes,Bool.not_true])]
  simp only [Bool.not_eq_true']

theorem runTo_closed {run rest : List Char} :
    runTo ')' (fun c => decide (c ≠ ')')) text = some (run,rest) ↔
      run ≠ [] ∧ (∀ c ∈ run, c ≠ ')') ∧ text = run ++ ')' :: rest := by
  rw [runTo_eq_some (by decide)]
  simp only [decide_eq_true_eq]

theorem equalityAt_eq_some :
    chars.equalityAt key previous text = some value ↔ EqualityAt chars key previous text value := by
  have equals : ∀ c, decide (c = '=') = true → isPythonSpace c = false :=
    fun c => sign_not_space (by decide)
  have quotes : ∀ c, isQuote c = true → isPythonSpace c = false := fun c => quote_not_space
  constructor
  · intro found
    obtain ⟨rest,keyed,found⟩ := Option.bind_eq_some_iff.mp found
    obtain ⟨⟨sign,signed⟩,signAt,found⟩ := Option.bind_eq_some_iff.mp found
    obtain ⟨⟨quote,quoted⟩,quoteAt,found⟩ := Option.bind_eq_some_iff.mp found
    obtain ⟨⟨run,rest'⟩,runAt,rfl⟩ := Option.map_eq_some_iff.mp found
    obtain ⟨apart,word,_⟩ := keyAt_eq_some.mp keyed
    obtain ⟨before,spaces,isSign,rfl⟩ := (skipTo_eq_some equals).mp signAt
    obtain ⟨after,spaces',isQuote',rfl⟩ := (skipTo_eq_some quotes).mp quoteAt
    obtain ⟨nonempty,plain,rfl⟩ := (runTo_quoted isQuote').mp runAt
    rw [dropAs_eq.mp word,of_decide_eq_true isSign]
    exact .intro apart (List.forall_mem_append.mpr ⟨spaces,spaces'⟩) isQuote' nonempty plain
  · rintro ⟨apart,spaces,isQuote',nonempty,plain⟩
    rename_i before after rest quote
    obtain ⟨spaces,spaces'⟩ := List.forall_mem_append.mp spaces
    apply Option.bind_eq_some_iff.mpr
    refine ⟨_,keyAt_eq_some.mpr ⟨apart,dropAs_eq.mpr rfl,
      head_apart chars spaces (chars.word_ascii '=' (by decide))⟩,?_⟩
    apply Option.bind_eq_some_iff.mpr
    refine ⟨('=',_),(skipTo_eq_some equals).mpr ⟨before,spaces,decide_eq_true rfl,rfl⟩,?_⟩
    apply Option.bind_eq_some_iff.mpr
    refine ⟨(quote,_),(skipTo_eq_some quotes).mpr ⟨after,spaces',isQuote',rfl⟩,?_⟩
    apply Option.map_eq_some_iff.mpr
    exact ⟨(value,_),(runTo_quoted isQuote').mpr ⟨nonempty,plain,rfl⟩,rfl⟩

theorem inListAt_eq_some {vals : List Char} :
    chars.inListAt key previous text = some vals ↔ InListAt chars key previous text vals := by
  have opens : ∀ c, decide (c = '(') = true → isPythonSpace c = false :=
    fun c => sign_not_space (by decide)
  constructor
  · intro found
    obtain ⟨rest,keyed,found⟩ := Option.bind_eq_some_iff.mp found
    obtain ⟨spaced,found⟩ := Option.ite_none_right_eq_some.mp found
    obtain ⟨list,isIn,found⟩ := Option.bind_eq_some_iff.mp found
    obtain ⟨⟨sign,opened⟩,openAt,found⟩ := Option.bind_eq_some_iff.mp found
    obtain ⟨⟨run,rest'⟩,runAt,rfl⟩ := Option.map_eq_some_iff.mp found
    obtain ⟨apart,word,_⟩ := keyAt_eq_some.mp keyed
    obtain ⟨keyword,isKey,rfl⟩ := dropAs_eq_some.mp word
    obtain ⟨operator,letters,cut⟩ := dropAs_eq_some.mp isIn
    obtain ⟨after,spaces,isOpen,rfl⟩ := (skipTo_eq_some opens).mp openAt
    obtain ⟨nonempty,closes,rfl⟩ := runTo_closed.mp runAt
    have before : rest.takeWhile isPythonSpace ≠ [] := by
      cases rest with
      | nil => cases spaced
      | cons c rest =>
        have space : isPythonSpace c = true := spaced
        rw [List.takeWhile_cons_of_pos space]
        exact List.cons_ne_nil _ _
    have parts : rest = rest.takeWhile isPythonSpace ++
        (operator ++ (after ++ '(' :: (run ++ ')' :: rest'))) := by
      rw [← of_decide_eq_true isOpen,← cut,List.takeWhile_append_dropWhile]
    have spaces' : ∀ c ∈ rest.takeWhile isPythonSpace ++ after, isPythonSpace c = true :=
      List.forall_mem_append.mpr ⟨fun c member => List.mem_takeWhile_imp member,spaces⟩
    rw [parts]
    exact .intro apart isKey ⟨before,nonempty⟩ spaces' letters closes
  · rintro ⟨apart,isKey,nonempty,spaces,isIn,closes⟩
    rename_i keyword before operator after rest
    obtain ⟨some',nonempty⟩ := nonempty
    obtain ⟨spaces,spaces'⟩ := List.forall_mem_append.mp spaces
    obtain ⟨c,before,rfl⟩ := List.exists_cons_of_ne_nil some'
    have space : isPythonSpace c = true := spaces c List.mem_cons_self
    -- the operator begins with a letter, so the spaces before it end there
    obtain ⟨i,operator,letter,others,rfl⟩ := List.forall₂_cons_left_iff.mp isIn
    have solid : isPythonSpace i = false := by
      cases spaceI : isPythonSpace i with
      | false => rfl
      | true =>
        have word := chars.same_word 'I' i letter (chars.word_ascii 'I' (by decide))
        rw [chars.space_word i spaceI] at word
        cases word
    have dropped : (c :: before ++ (i :: operator ++ (after ++ '(' :: (vals ++ ')' :: rest)))).dropWhile
        isPythonSpace = i :: operator ++ (after ++ '(' :: (vals ++ ')' :: rest)) :=
      (cut_of_run solid spaces).2
    apply Option.bind_eq_some_iff.mpr
    refine ⟨_,keyAt_eq_some.mpr ⟨apart,dropAs_eq_some.mpr ⟨keyword,isKey,rfl⟩,
      chars.space_word c space⟩,?_⟩
    apply Option.ite_none_right_eq_some.mpr
    refine ⟨space,?_⟩
    rw [dropped]
    apply Option.bind_eq_some_iff.mpr
    refine ⟨_,dropAs_eq_some.mpr ⟨i :: operator,isIn,rfl⟩,?_⟩
    apply Option.bind_eq_some_iff.mpr
    refine ⟨('(',_),(skipTo_eq_some opens).mpr ⟨after,spaces',decide_eq_true rfl,rfl⟩,?_⟩
    apply Option.map_eq_some_iff.mpr
    exact ⟨(vals,_),runTo_closed.mpr ⟨nonempty,closes,rfl⟩,rfl⟩

/-- The extraction reads what the filter names first. -/
theorem extractFirstFilterValue_eq_some {filterStr value : String} :
    extractFirstFilterValue chars filterStr key = some value ↔
      NamesFirst chars filterStr key value.toList := by
  have equality : ∀ found, search (chars.equalityAt key) none filterStr.toList = some found ↔
      Leftmost (EqualityAt chars key) none filterStr.toList found :=
    fun found => search_eq_some (fun _ _ _ => equalityAt_eq_some)
  have inList : ∀ found, search (chars.inListAt key) none filterStr.toList = some found ↔
      Leftmost (InListAt chars key) none filterStr.toList found :=
    fun found => search_eq_some (fun _ _ _ => inListAt_eq_some)
  have text : ∀ found : List Char, String.ofList found = value ↔ found = value.toList := by
    intro found
    rw [← String.toList_inj,String.toList_ofList]
  unfold extractFirstFilterValue NamesFirst
  simp only [← equality,← inList]
  cases search (chars.equalityAt key) none filterStr.toList with
  | some found =>
    simp only [Option.orElse_some,Option.map_some,Option.some.injEq,text,forall_eq',
      false_and,or_false]
  | none =>
    simp only [Option.orElse_none,Option.map_eq_some_iff,Option.bind_eq_some_iff,text,
      exists_eq_right,reduceCtorEq,not_false_iff,implies_true,true_and,false_or]

end Patterns
end MlflowOidcAuth
