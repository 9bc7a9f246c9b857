import Mathlib.Data.List.Forall2

/-! Patterns for request paths: fixed characters, wildcards for one character, for one
segment and for the rest of a path, and what it takes for a path to fit one whole. -/
namespace PathPatterns

inductive Token
  | char (c : Char)
  /-- One character, a newline excepted. -/
  | anyChar
  /-- At least one character, none of them a slash. -/
  | segment
  /-- At least one character, the first of them no slash. -/
  | path
  /-- At least one character. -/
  | rest
deriving DecidableEq, Repr

/-- The whole path fits the tokens. -/
def fits : List Char → List Token → Bool
  | [], [] => true
  | [], _ :: _ => false
  | _ :: _, [] => false
  | c :: path, .char d :: tokens => decide (c = d) && fits path tokens
  | c :: path, .anyChar :: tokens => decide (c ≠ '\n') && fits path tokens
  | c :: path, .segment :: tokens =>
    decide (c ≠ '/') && (fits path tokens || fits path (.segment :: tokens))
  | c :: path, .path :: tokens =>
    decide (c ≠ '/') && (fits path tokens || fits path (.rest :: tokens))
  | _ :: path, .rest :: tokens => fits path tokens || fits path (.rest :: tokens)

/-- What fits the first token fits the second. -/
inductive Token.Weaker : Token → Token → Prop
  | same (token : Token) : Weaker token token
  | anyChar (c : Char) (visible : c ≠ '\n') : Weaker (.char c) .anyChar

theorem fits_weaker {path : List Char} {tokens tokens' : List Token}
    (weaker : List.Forall₂ Token.Weaker tokens tokens') (fit : fits path tokens = true) :
    fits path tokens' = true := by
  induction path generalizing tokens tokens' with
  | nil =>
    cases weaker with
    | nil => rfl
    | cons => simp [fits] at fit
  | cons c path ih =>
    cases weaker with
    | nil => simp [fits] at fit
    | @cons token _ _ _ step steps =>
      have later := fun fit => ih steps fit
      cases step with
      | anyChar d visible =>
        simp only [fits,Bool.and_eq_true,decide_eq_true_eq] at fit ⊢
        obtain ⟨rfl,fit⟩ := fit
        exact ⟨visible,later fit⟩
      | same =>
        have again := fun (token : Token) fit => ih (.cons (Token.Weaker.same token) steps) fit
        cases token <;> simp only [fits,Bool.and_eq_true,Bool.or_eq_true] at fit ⊢
        case char => exact fit.imp_right later
        case anyChar => exact fit.imp_right later
        case segment => exact fit.imp_right (fun fit => fit.imp later (again _))
        case path => exact fit.imp_right (fun fit => fit.imp later (again _))
        case rest => exact fit.imp later (again _)

end PathPatterns
