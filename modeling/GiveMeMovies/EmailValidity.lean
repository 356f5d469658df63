import Mathlib.Computability.RegularExpressions

/-!
# The pattern of an email address

Character classes and bounded repetition as regular expressions, and `String.isValidEmail`,
which asks for a match of the whole string.
-/

namespace RegularExpression

variable {α : Type*}

/-- A character class. -/
def oneOf (symbols : List α) : RegularExpression α :=
  symbols.foldr (fun symbol r => char symbol + r) 0

/-- `r+` -/
def oneOrMore (r : RegularExpression α) : RegularExpression α := r * star r

def atMost (r : RegularExpression α) : ℕ → RegularExpression α
  | 0 => 1
  | n + 1 => 1 + r * atMost r n

/-- `r{m,n}` -/
def between (r : RegularExpression α) (m n : ℕ) : RegularExpression α :=
  (List.replicate m r).foldr (fun r s => r * s) (atMost r (n - m))

end RegularExpression

namespace GiveMeMovies

open RegularExpression

def upperLetters : List Char := "ABCDEFGHIJKLMNOPQRSTUVWXYZ".toList

def lowerLetters : List Char := "abcdefghijklmnopqrstuvwxyz".toList

def digits : List Char := "0123456789".toList

/-- `[A-Z0-9a-z._%+-]+@[A-Za-z0-9.-]+\\.[A-Za-z]{2,64}` -/
def emailRegEx : RegularExpression Char :=
  oneOrMore (oneOf (upperLetters ++ digits ++ lowerLetters ++ "._%+-".toList)) * char '@' *
    oneOrMore (oneOf (upperLetters ++ lowerLetters ++ digits ++ ".-".toList)) * char '.' *
    between (oneOf (upperLetters ++ lowerLetters)) 2 64

def isValidEmail (text : String) : Bool := emailRegEx.rmatch text.toList

end GiveMeMovies
