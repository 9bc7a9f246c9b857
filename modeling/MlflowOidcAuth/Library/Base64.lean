import Mathlib.Data.List.Basic

/-! Base64. The decoder is the lenient one: characters outside the alphabet are skipped, and a
padding sign counts only where it can end a group of four. -/
namespace Base64

def alphabet : List Char :=
  ['A','B','C','D','E','F','G','H','I','J','K','L','M','N','O','P',
   'Q','R','S','T','U','V','W','X','Y','Z','a','b','c','d','e','f',
   'g','h','i','j','k','l','m','n','o','p','q','r','s','t','u','v',
   'w','x','y','z','0','1','2','3','4','5','6','7','8','9','+','/']

def sextetChar (sextet : Nat) : Char := alphabet.getD sextet 'A'

def sextet? (c : Char) : Option Nat := alphabet.findIdx? (fun other => decide (other = c))

def encode : List UInt8 → List Char
  | [] => []
  | [a] => [sextetChar (a.toNat / 4),sextetChar (a.toNat % 4 * 16),'=','=']
  | [a,b] =>
    [sextetChar (a.toNat / 4),sextetChar (a.toNat % 4 * 16 + b.toNat / 16),
      sextetChar (b.toNat % 16 * 4),'=']
  | a :: b :: c :: rest =>
    sextetChar (a.toNat / 4) :: sextetChar (a.toNat % 4 * 16 + b.toNat / 16) ::
      sextetChar (b.toNat % 16 * 4 + c.toNat / 64) :: sextetChar (c.toNat % 64) :: encode rest

/-- The bytes of the rest of a text, after so many characters of a group, the bits that they
left over, and so many padding signs. -/
def decodeFrom (position leftover pads : Nat) : List Char → Option (List UInt8)
  | [] => if position = 0 then some [] else none
  | c :: rest =>
    if c = '=' then
      if position < 2 then decodeFrom position leftover pads rest
      else if 4 ≤ position + (pads + 1) then some []
      else decodeFrom position leftover (pads + 1) rest
    else match sextet? c with
      | none => decodeFrom position leftover pads rest
      | some sextet =>
        match position with
        | 0 => decodeFrom 1 sextet 0 rest
        | 1 => (decodeFrom 2 (sextet % 16) 0 rest).map
            (UInt8.ofNat (leftover * 4 + sextet / 16) :: ·)
        | 2 => (decodeFrom 3 (sextet % 4) 0 rest).map
            (UInt8.ofNat (leftover * 16 + sextet / 4) :: ·)
        | _ => (decodeFrom 0 0 0 rest).map (UInt8.ofNat (leftover * 64 + sextet) :: ·)

def decode (text : List Char) : Option (List UInt8) := decodeFrom 0 0 0 text

theorem sextet_char : ∀ sextet < 64, sextet? (sextetChar sextet) = some sextet := by decide

theorem sextetChar_ne_pad : ∀ sextet < 64, sextetChar sextet ≠ '=' := by decide

theorem sextetChar_ascii : ∀ sextet < 64, (sextetChar sextet).toNat < 128 := by decide

section Groups
variable {leftover pads sextet : Nat} {rest : List Char}

theorem decodeFrom_first (inside : sextet < 64) :
    decodeFrom 0 leftover pads (sextetChar sextet :: rest) = decodeFrom 1 sextet 0 rest := by
  simp only [decodeFrom,sextetChar_ne_pad sextet inside,if_false,sextet_char sextet inside]

theorem decodeFrom_second (inside : sextet < 64) :
    decodeFrom 1 leftover pads (sextetChar sextet :: rest) =
      (decodeFrom 2 (sextet % 16) 0 rest).map (UInt8.ofNat (leftover * 4 + sextet / 16) :: ·) := by
  simp only [decodeFrom,sextetChar_ne_pad sextet inside,if_false,sextet_char sextet inside]

theorem decodeFrom_third (inside : sextet < 64) :
    decodeFrom 2 leftover pads (sextetChar sextet :: rest) =
      (decodeFrom 3 (sextet % 4) 0 rest).map (UInt8.ofNat (leftover * 16 + sextet / 4) :: ·) := by
  simp only [decodeFrom,sextetChar_ne_pad sextet inside,if_false,sextet_char sextet inside]

theorem decodeFrom_fourth (inside : sextet < 64) :
    decodeFrom 3 leftover pads (sextetChar sextet :: rest) =
      (decodeFrom 0 0 0 rest).map (UInt8.ofNat (leftover * 64 + sextet) :: ·) := by
  simp only [decodeFrom,sextetChar_ne_pad sextet inside,if_false,sextet_char sextet inside]

theorem decodeFrom_twoPads : decodeFrom 2 leftover 0 ['=','='] = some [] := rfl

theorem decodeFrom_onePad : decodeFrom 3 leftover 0 ['='] = some [] := rfl

end Groups

theorem byte_of_parts (byte : UInt8) {parts : Nat} (same : parts = byte.toNat) :
    UInt8.ofNat parts = byte := by
  rw [same,UInt8.ofNat_toNat]

/-- What was encoded is decoded, a group of three bytes at a time. -/
theorem decode_encode (bytes : List UInt8) (leftover pads : Nat) :
    decodeFrom 0 leftover pads (encode bytes) = some bytes := by
  induction bytes using encode.induct generalizing leftover pads with
  | case1 => rfl
  | case2 a =>
    have bound := a.toNat_lt
    rw [encode,decodeFrom_first (by omega),decodeFrom_second (by omega),decodeFrom_twoPads,
      Option.map_some,byte_of_parts a (by omega)]
  | case3 a b =>
    have bound := a.toNat_lt
    have bound' := b.toNat_lt
    rw [encode,decodeFrom_first (by omega),decodeFrom_second (by omega),
      decodeFrom_third (by omega),decodeFrom_onePad,Option.map_some,Option.map_some,
      byte_of_parts a (by omega),byte_of_parts b (by omega)]
  | case4 a b c rest ih =>
    have bound := a.toNat_lt
    have bound' := b.toNat_lt
    have bound'' := c.toNat_lt
    rw [encode,decodeFrom_first (by omega),decodeFrom_second (by omega),
      decodeFrom_third (by omega),decodeFrom_fourth (by omega),ih,Option.map_some,
      Option.map_some,Option.map_some,byte_of_parts a (by omega),byte_of_parts b (by omega),
      byte_of_parts c (by omega)]

/-- An encoded text is ASCII. -/
theorem encode_ascii (bytes : List UInt8) : ∀ c ∈ encode bytes, c.toNat < 128 := by
  have pad : ('=').toNat < 128 := by decide
  induction bytes using encode.induct with
  | case1 => simp [encode]
  | case2 a =>
    have bound := a.toNat_lt
    simp only [encode,List.forall_mem_cons,List.not_mem_nil,false_implies,implies_true,and_true]
    exact ⟨sextetChar_ascii _ (by omega),sextetChar_ascii _ (by omega),pad,pad⟩
  | case3 a b =>
    have bound := a.toNat_lt
    have bound' := b.toNat_lt
    simp only [encode,List.forall_mem_cons,List.not_mem_nil,false_implies,implies_true,and_true]
    exact ⟨sextetChar_ascii _ (by omega),sextetChar_ascii _ (by omega),
      sextetChar_ascii _ (by omega),pad⟩
  | case4 a b c rest ih =>
    have bound := a.toNat_lt
    have bound' := b.toNat_lt
    have bound'' := c.toNat_lt
    simp only [encode,List.forall_mem_cons]
    exact ⟨sextetChar_ascii _ (by omega),sextetChar_ascii _ (by omega),
      sextetChar_ascii _ (by omega),sextetChar_ascii _ (by omega),ih⟩

end Base64
