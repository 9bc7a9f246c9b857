import Mathlib.Data.List.Basic

/-! The syntax of Python's regular expressions, as far as groups and repetitions go: a reader
that keeps the open groups on a stack and yields the tree of every pattern that compiles, and
unbounded repetitions nested in one another. -/

inductive RegexTree
  | empty
  | atom
  | seq (first second : RegexTree)
  | alt (first second : RegexTree)
  | group (body : RegexTree)
  | repetition (min : Nat) (max : Option Nat) (item : RegexTree)
deriving DecidableEq, Repr

namespace RegexTree

section Nesting

/-- The part stands somewhere in the tree, itself included. -/
inductive Within (part : RegexTree) : RegexTree → Prop
  | here : Within part part
  | seqFirst {first second} (inside : Within part first) : Within part (.seq first second)
  | seqSecond {first second} (inside : Within part second) : Within part (.seq first second)
  | altFirst {first second} (inside : Within part first) : Within part (.alt first second)
  | altSecond {first second} (inside : Within part second) : Within part (.alt first second)
  | group {body} (inside : Within part body) : Within part (.group body)
  | repetition {min max item} (inside : Within part item) :
    Within part (.repetition min max item)

/-- An unbounded repetition stands, at any depth, within what another one repeats. -/
def NestsUnbounded (tree : RegexTree) : Prop :=
  ∃ outerMin innerMin item inner, Within (.repetition outerMin none item) tree ∧
    Within (.repetition innerMin none inner) item

def anywhere (test : RegexTree → Bool) : RegexTree → Bool
  | .empty => test .empty
  | .atom => test .atom
  | .seq first second =>
    test (.seq first second) || first.anywhere test || second.anywhere test
  | .alt first second =>
    test (.alt first second) || first.anywhere test || second.anywhere test
  | .group body => test (.group body) || body.anywhere test
  | .repetition min max item => test (.repetition min max item) || item.anywhere test

theorem anywhere_of_within {test : RegexTree → Bool} {part tree : RegexTree}
    (inside : Within part tree) (passes : test part = true) : tree.anywhere test = true := by
  induction inside with
  | here => cases part <;> simp [anywhere,passes]
  | seqFirst _ ih => simp [anywhere,ih]
  | seqSecond _ ih => simp [anywhere,ih]
  | altFirst _ ih => simp [anywhere,ih]
  | altSecond _ ih => simp [anywhere,ih]
  | group _ ih => simp [anywhere,ih]
  | repetition _ ih => simp [anywhere,ih]

theorem within_of_anywhere {test : RegexTree → Bool} {tree : RegexTree}
    (found : tree.anywhere test = true) : ∃ part, Within part tree ∧ test part = true := by
  induction tree with
  | empty => exact ⟨_,.here,found⟩
  | atom => exact ⟨_,.here,found⟩
  | seq first second ihFirst ihSecond =>
    simp only [anywhere,Bool.or_eq_true] at found
    rcases found with (passes | inside) | inside
    · exact ⟨_,.here,passes⟩
    · obtain ⟨part,inside,passes⟩ := ihFirst inside
      exact ⟨part,.seqFirst inside,passes⟩
    · obtain ⟨part,inside,passes⟩ := ihSecond inside
      exact ⟨part,.seqSecond inside,passes⟩
  | alt first second ihFirst ihSecond =>
    simp only [anywhere,Bool.or_eq_true] at found
    rcases found with (passes | inside) | inside
    · exact ⟨_,.here,passes⟩
    · obtain ⟨part,inside,passes⟩ := ihFirst inside
      exact ⟨part,.altFirst inside,passes⟩
    · obtain ⟨part,inside,passes⟩ := ihSecond inside
      exact ⟨part,.altSecond inside,passes⟩
  | group body ih =>
    simp only [anywhere,Bool.or_eq_true] at found
    rcases found with passes | inside
    · exact ⟨_,.here,passes⟩
    · obtain ⟨part,inside,passes⟩ := ih inside
      exact ⟨part,.group inside,passes⟩
  | repetition min max item ih =>
    simp only [anywhere,Bool.or_eq_true] at found
    rcases found with passes | inside
    · exact ⟨_,.here,passes⟩
    · obtain ⟨part,inside,passes⟩ := ih inside
      exact ⟨part,.repetition inside,passes⟩

def isUnbounded : RegexTree → Bool
  | .repetition _ max _ => max.isNone
  | _ => false

def repeatsUnbounded : RegexTree → Bool
  | .repetition _ max item => max.isNone && item.anywhere isUnbounded
  | _ => false

theorem nestsUnbounded_iff (tree : RegexTree) :
    NestsUnbounded tree ↔ tree.anywhere repeatsUnbounded = true := by
  constructor
  · intro ⟨outerMin,innerMin,item,inner,outside,inside⟩
    apply anywhere_of_within outside
    exact anywhere_of_within inside rfl
  · intro found
    obtain ⟨part,outside,passes⟩ := within_of_anywhere found
    cases part with
    | repetition outerMin max item =>
      simp only [repeatsUnbounded,Bool.and_eq_true,Option.isNone_iff_eq_none] at passes
      obtain ⟨rfl,nested⟩ := passes
      obtain ⟨part',inside,passes'⟩ := within_of_anywhere nested
      cases part' with
      | repetition innerMin max inner =>
        simp only [isUnbounded,Option.isNone_iff_eq_none] at passes'
        subst passes'
        exact ⟨outerMin,innerMin,item,inner,outside,inside⟩
      | _ => cases passes'
    | _ => cases passes

instance (tree : RegexTree) : Decidable (NestsUnbounded tree) :=
  decidable_of_iff _ (nestsUnbounded_iff tree).symm

end Nesting

section Reader

/-- A group that is open: its finished alternatives and the items of the current one, both with
the latest first, and whether whitespace and comments are skipped in it. -/
structure Frame where
  alternatives : List RegexTree
  items : List RegexTree
  verbose : Bool
deriving DecidableEq, Repr

namespace Frame

def opened (verbose : Bool) : Frame := ⟨[],[],verbose⟩

def sequence (frame : Frame) : RegexTree :=
  frame.items.foldl (fun later item => .seq item later) .empty

def tree (frame : Frame) : RegexTree :=
  frame.alternatives.foldl (fun later alternative => .alt alternative later) frame.sequence

def push (item : RegexTree) (frame : Frame) : Frame := { frame with items := item :: frame.items }

def nextAlternative (frame : Frame) : Frame :=
  ⟨frame.sequence :: frame.alternatives,[],frame.verbose⟩

/-- Repeat the latest item, which must be there and not be a repetition itself. -/
def repeatLast (min : Nat) (max : Option Nat) (frame : Frame) : Option Frame :=
  match frame.items with
  | [] => none
  | .repetition _ _ _ :: _ => none
  | item :: items => some { frame with items := .repetition min max item :: items }

end Frame

/-- The open groups, the innermost apart, and how many characters belong to what was read last. -/
structure Reader where
  outer : List Frame
  frame : Frame
  skip : Nat
deriving DecidableEq, Repr

/-- How far it is to the end of a token that stops with the given character; a backslash and
the character after it are one. -/
def lengthTo (stop : Char) : List Char → Option Nat
  | [] => none
  | '\\' :: _ :: rest => (lengthTo stop rest).map (fun length => length + 2)
  | c :: rest => if c = stop then some 1 else (lengthTo stop rest).map (fun length => length + 1)

/-- What follows the letter of an escape and belongs to it. -/
def escapeLength : List Char → Option Nat
  | 'x' :: _ => some 3
  | 'u' :: _ => some 5
  | 'U' :: _ => some 9
  | 'N' :: rest => (lengthTo '}' rest).map (fun length => length + 1)
  | _ :: _ => some 1
  | [] => none

/-- A set ends at a closing bracket that is not its first member. -/
def setLength (text : List Char) : Option Nat :=
  let negated := text.head? == some '^'
  let members := if negated then text.tail else text
  let firstLength := if members.head? = some '\\' then 2 else 1
  (lengthTo ']' (members.drop firstLength)).map
    (fun length => length + firstLength + if negated then 1 else 0)

def number (digits : List Char) : Option Nat :=
  if digits.isEmpty then none else
  some (digits.foldl (fun value c => 10 * value + (c.toNat - 48)) 0)

/-- The bounds in braces and their length, unless the brace is a plain character. -/
def braces (text : List Char) : Option (Nat × Option Nat × Nat) :=
  let low := text.takeWhile Char.isDigit
  match text.drop low.length with
  | '}' :: _ =>
    if low.isEmpty then none else some ((number low).getD 0,number low,low.length + 1)
  | ',' :: rest =>
    let high := rest.takeWhile Char.isDigit
    match rest.drop high.length with
    | '}' :: _ => some ((number low).getD 0,number high,low.length + high.length + 2)
    | _ => none
  | _ => none

/-- A quantifier: its bounds and how many characters of the text after its first belong to it. -/
def quantifier (c : Char) (text : List Char) : Option (Nat × Option Nat × Nat) :=
  match c with
  | '*' => some (0,none,0)
  | '+' => some (1,none,0)
  | '?' => some (0,some 1,0)
  | '{' => braces text
  | _ => none

/-- A lazy or possessive quantifier has one character more. -/
def suffixLength (text : List Char) : Nat :=
  if text.head? = some '?' ∨ text.head? = some '+' then 1 else 0

def isFlag (c : Char) : Bool := decide (c ∈ "aiLmsux-".toList)

def isVerboseSpace (c : Char) : Bool :=
  decide (c ∈ " \t\n\r".toList ∨ c.toNat = 11 ∨ c.toNat = 12)

namespace Reader

def skipping (reader : Reader) (length : Nat) : Reader := { reader with skip := length }

def push (item : RegexTree) (reader : Reader) : Reader :=
  { reader with frame := reader.frame.push item }

def openGroup (verbose : Bool) (reader : Reader) : Reader :=
  { reader with outer := reader.frame :: reader.outer, frame := .opened verbose }

def closeGroup (reader : Reader) : Option Reader :=
  match reader.outer with
  | [] => none
  | frame :: outer =>
    some { reader with outer := outer, frame := frame.push (.group reader.frame.tree) }

/-- Inline flags: for the whole pattern, or for the group that they open. -/
def readFlags (text : List Char) (reader : Reader) : Option Reader :=
  let flags := text.takeWhile isFlag
  let added := flags.takeWhile (fun c => c != '-')
  let removed := flags.dropWhile (fun c => c != '-')
  let verbose := (reader.frame.verbose || decide ('x' ∈ added)) && decide ('x' ∉ removed)
  match text.drop flags.length with
  | ')' :: _ =>
    some (skipping { reader with frame := { reader.frame with verbose := verbose } }
      (flags.length + 2))
  | ':' :: _ => some ((reader.openGroup verbose).skipping (flags.length + 2))
  | _ => none

def readGroup (text : List Char) (reader : Reader) : Option Reader :=
  let inner := reader.openGroup reader.frame.verbose
  match text with
  | '?' :: 'P' :: '<' :: rest =>
    (lengthTo '>' rest).map (fun length => inner.skipping (length + 3))
  | '?' :: 'P' :: '=' :: rest =>
    (lengthTo ')' rest).map (fun length => (reader.push .atom).skipping (length + 3))
  | '?' :: '#' :: rest => (lengthTo ')' rest).map (fun length => reader.skipping (length + 2))
  | '?' :: '(' :: rest => (lengthTo ')' rest).map (fun length => inner.skipping (length + 2))
  | '?' :: '<' :: _ => some (inner.skipping 3)
  | '?' :: c :: rest =>
    if c ∈ ":>=!".toList then some (inner.skipping 2) else reader.readFlags (c :: rest)
  | ['?'] => none
  | _ => some inner

/-- One character with nothing of an earlier token left, and the text after it. -/
def readChar (c : Char) (text : List Char) (reader : Reader) : Option Reader :=
  if reader.frame.verbose && isVerboseSpace c then some reader
  else if reader.frame.verbose && c == '#' then
    some (reader.skipping ((lengthTo '\n' text).getD text.length))
  else if c = '\\' then (escapeLength text).map (fun length => (reader.push .atom).skipping length)
  else if c = '[' then (setLength text).map (fun length => (reader.push .atom).skipping length)
  else if c = '(' then reader.readGroup text
  else if c = ')' then reader.closeGroup
  else if c = '|' then some { reader with frame := reader.frame.nextAlternative }
  else
    match quantifier c text with
    | some (min,max,length) =>
      (reader.frame.repeatLast min max).map (fun frame =>
        skipping { reader with frame := frame } (length + suffixLength (text.drop length)))
    | none => some (reader.push .atom)

def read : List Char → Reader → Option Reader
  | [],reader => some reader
  | c :: text,reader =>
    if reader.skip > 0 then read text (reader.skipping (reader.skip - 1))
    else (reader.readChar c text).bind (read text)

end Reader

def parse (pattern : String) : Option RegexTree :=
  match Reader.read pattern.toList ⟨[],.opened false,0⟩ with
  | some ⟨[],frame,_⟩ => some frame.tree
  | _ => none

end Reader
end RegexTree
