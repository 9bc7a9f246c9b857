import Mathlib.Data.List.TakeWhile

/-! Where a URL reference leads: percent encoding, and the states of the URL Standard's parser
as far as they decide the origin of a reference that is resolved against a base with a special
scheme. What the host parser makes of an authority is a parameter. -/
namespace UrlOrigin

section Encoding

def hexDigit (digit : Nat) : Char := Char.ofNat (if digit < 10 then 48 + digit else 55 + digit)

def percentByte (byte : UInt8) : List Char :=
  ['%',hexDigit (byte.toNat / 16),hexDigit (byte.toNat % 16)]

/-- Every character outside of the safe set becomes its escaped UTF-8 bytes. -/
def percentEncode (safe : Char → Bool) (text : List Char) : List Char :=
  text.flatMap (fun c => if safe c then [c] else (String.utf8EncodeChar c).flatMap percentByte)

variable {safe : Char → Bool}

theorem percentEncode_append (safe : Char → Bool) (first second : List Char) :
    percentEncode safe (first ++ second) = percentEncode safe first ++ percentEncode safe second :=
  List.flatMap_append

theorem percentEncode_cons (safe : Char → Bool) (c : Char) (text : List Char) :
    percentEncode safe (c :: text) =
      (if safe c then [c] else (String.utf8EncodeChar c).flatMap percentByte) ++
        percentEncode safe text := rfl

theorem percentEncode_of_safe {text : List Char} (allSafe : ∀ c, c ∈ text → safe c = true) :
    percentEncode safe text = text := by
  induction text with
  | nil => rfl
  | cons c text ih =>
    rw [percentEncode_cons,if_pos (allSafe c List.mem_cons_self),
      ih (fun other member => allSafe other (List.mem_cons_of_mem _ member))]
    rfl

theorem mem_percentEncode {c : Char} {text : List Char} (member : c ∈ percentEncode safe text) :
    safe c = true ∨ c = '%' ∨ ∃ digit, digit < 16 ∧ c = hexDigit digit := by
  obtain ⟨source,_,encoded⟩ := List.mem_flatMap.mp member
  split at encoded
  · next isSafe =>
    rw [List.mem_singleton.mp encoded]
    exact .inl isSafe
  · obtain ⟨byte,_,escaped⟩ := List.mem_flatMap.mp encoded
    have small : byte.toNat < 256 := UInt8.toNat_lt byte
    rcases List.mem_cons.mp escaped with rfl | digits
    · exact .inr (.inl rfl)
    · rcases List.mem_cons.mp digits with rfl | last
      · exact .inr (.inr ⟨_,by omega,rfl⟩)
      · rw [List.mem_singleton.mp last]
        exact .inr (.inr ⟨_,by omega,rfl⟩)

/-- An encoded text starts with its own first character or with an escape. -/
theorem head_percentEncode {c d : Char} {text : List Char}
    (first : (percentEncode safe (c :: text)).head? = some d) :
    d = c ∧ safe c = true ∨ d = '%' := by
  rw [percentEncode_cons] at first
  split at first
  · next isSafe =>
    cases first
    exact .inl ⟨rfl,isSafe⟩
  · cases bytes : String.utf8EncodeChar c with
    | nil => exact absurd bytes String.utf8EncodeChar_ne_nil
    | cons byte rest =>
      rw [bytes] at first
      cases first
      exact .inr rfl

end Encoding

section Parser

def isC0OrSpace (c : Char) : Bool := decide (c.toNat ≤ 32)

def isTabOrNewline (c : Char) : Bool := c == '\t' || c == '\n' || c == '\r'

/-- What the parser starts with: no space around and no tab or newline within. -/
def prepare (input : List Char) : List Char :=
  ((input.dropWhile isC0OrSpace).reverse.dropWhile isC0OrSpace).reverse.filter
    (fun c => !isTabOrNewline c)

/-- In URLs with a special scheme a backslash is a slash. -/
def isSlash (c : Char) : Bool := c == '/' || c == '\\'

def isSchemeChar (c : Char) : Bool := c.isAlphanum || c == '+' || c == '-' || c == '.'

/-- The scheme start state and the scheme state: the scheme, in lower case, and what follows
its colon. -/
def schemeState : List Char → Option (List Char × List Char)
  | [] => none
  | c :: rest =>
    if c.isAlpha then
      match rest.dropWhile isSchemeChar with
      | ':' :: after => some ((c :: rest.takeWhile isSchemeChar).map Char.toLower,after)
      | _ => none
    else none

def endsAuthority (c : Char) : Bool := isSlash c || c == '?' || c == '#'

/-- The authority state: what stands before the path, the query or the fragment, without
credentials. -/
def authorityState (input : List Char) : List Char :=
  ((input.takeWhile (fun c => !endsAuthority c)).reverse.takeWhile (fun c => c != '@')).reverse

variable {Origin : Type*} (parseAuthority : List Char → List Char → Option Origin)

/-- The special authority ignore slashes state. -/
def specialAuthorityState (scheme input : List Char) : Option Origin :=
  parseAuthority scheme (authorityState (input.dropWhile isSlash))

/-- The relative state and the relative slash state. -/
def relativeState (scheme : List Char) (origin : Origin) : List Char → Option Origin
  | c :: d :: rest =>
    if isSlash c && isSlash d then specialAuthorityState parseAuthority scheme rest
    else some origin
  | _ => some origin

/-- The special schemes with a tuple origin. -/
def specialSchemes : List (List Char) :=
  ["ftp".toList,"http".toList,"https".toList,"ws".toList,"wss".toList]

/-- The origin of a reference, resolved against a base with a special scheme, unless parsing
fails or the origin is opaque. -/
def resolve (scheme : List Char) (origin : Origin) (input : List Char) : Option Origin :=
  match schemeState (prepare input) with
  | none => relativeState parseAuthority scheme origin (prepare input)
  | some (own,rest) =>
    if own ∈ specialSchemes then
      if own = scheme ∧ rest.take 2 ≠ "//".toList then
        relativeState parseAuthority scheme origin rest
      else specialAuthorityState parseAuthority own rest
    else none

variable {parseAuthority} {scheme : List Char} {origin : Origin}

theorem prepare_of_printable {input : List Char} (printable : ∀ c, c ∈ input → 32 < c.toNat) :
    prepare input = input := by
  have untrimmed {text : List Char} (within : ∀ c, c ∈ text → c ∈ input) :
      text.dropWhile isC0OrSpace = text := by
    cases text with
    | nil => rfl
    | cons c rest =>
      apply List.dropWhile_cons_of_neg
      have above := printable c (within c List.mem_cons_self)
      simp only [isC0OrSpace,decide_eq_true_eq]
      omega
  have unbroken : ∀ c, c ∈ input → (!isTabOrNewline c) = true := by
    intro c member
    have above := printable c member
    have apart {other : Char} (low : other.toNat ≤ 32) : (c == other) = false := by
      rw [beq_eq_false_iff_ne]
      intro same
      rw [same] at above
      omega
    unfold isTabOrNewline
    rw [apart (by decide),apart (by decide),apart (by decide)]
    rfl
  unfold prepare
  rw [untrimmed (fun c member => member),
    untrimmed (fun c member => List.mem_reverse.mp member),List.reverse_reverse]
  exact List.filter_eq_self.mpr unbroken

/-- A path that is not followed by a second slash stays on the origin of its base. -/
theorem resolve_path {rest : List Char}
    (printable : ∀ c, c ∈ '/' :: rest → 32 < c.toNat)
    (single : ∀ c, rest.head? = some c → isSlash c = false) :
    resolve parseAuthority scheme origin ('/' :: rest) = some origin := by
  have unschemed : schemeState ('/' :: rest) = none := rfl
  unfold resolve
  rw [prepare_of_printable printable,unschemed]
  cases rest with
  | nil => rfl
  | cons c rest =>
    have apart := single c rfl
    simp only [relativeState,apart,Bool.and_false]
    rfl

theorem authorityState_of_plain {authority rest : List Char}
    (plain : ∀ c, c ∈ authority → endsAuthority c = false ∧ c ≠ '@')
    (ended : ∀ c, rest.head? = some c → endsAuthority c = true) :
    authorityState (authority ++ rest) = authority := by
  have stopped : rest.takeWhile (fun c => !endsAuthority c) = [] := by
    cases rest with
    | nil => rfl
    | cons c rest => exact List.takeWhile_cons_of_neg (by simp [ended c rfl])
  have whole : authority.reverse.takeWhile (fun c => c != '@') = authority.reverse := by
    rw [List.takeWhile_eq_self_iff]
    intro c member
    simpa using (plain c (List.mem_reverse.mp member)).2
  unfold authorityState
  rw [List.takeWhile_append_of_pos (fun c member => by simp [(plain c member).1]),stopped,
    List.append_nil,whole,List.reverse_reverse]

/-- A full URL has the origin of its own authority. -/
theorem resolve_absolute {own authority rest : List Char}
    (http : own = "http".toList ∨ own = "https".toList)
    (printable : ∀ c, c ∈ own ++ "://".toList ++ authority ++ rest → 32 < c.toNat)
    (nonempty : authority ≠ [])
    (plain : ∀ c, c ∈ authority → endsAuthority c = false ∧ c ≠ '@')
    (ended : ∀ c, rest.head? = some c → endsAuthority c = true) :
    resolve parseAuthority scheme origin (own ++ "://".toList ++ authority ++ rest) =
      parseAuthority own authority := by
  have schemed : schemeState (own ++ "://".toList ++ authority ++ rest) =
      some (own,"//".toList ++ (authority ++ rest)) := by
    rcases http with rfl | rfl <;> rfl
  have special : own ∈ specialSchemes := by
    rcases http with rfl | rfl <;> decide
  have slashes : ("//".toList ++ (authority ++ rest)).dropWhile isSlash = authority ++ rest := by
    cases authority with
    | nil => exact absurd rfl nonempty
    | cons c others =>
      have apart : isSlash c = false := by
        have ends := (plain c List.mem_cons_self).1
        simp only [endsAuthority,Bool.or_eq_false_iff] at ends
        exact ends.1.1
      change (c :: (others ++ rest)).dropWhile isSlash = c :: (others ++ rest)
      exact List.dropWhile_cons_of_neg (by simp [apart])
  unfold resolve
  rw [prepare_of_printable printable,schemed]
  simp only [special,if_true]
  rw [if_neg (by simp),specialAuthorityState,slashes,authorityState_of_plain plain ended]

end Parser
end UrlOrigin
