import Highlight.Lexis.Scan

/-!
# Profiles of characters

The profile of a character says how a scan treats it: what it is alone, whether it joins the word
before it, and whether it is a digit. Neighbouring characters with one profile form a run.
-/

namespace Highlight

/-- How a scan treats a character. -/
structure Profile where
  /-- The kind of the first lexeme of the character alone. -/
  alone : Option Kind
  /-- Whether the character and a letter before it are one lexeme. -/
  joins : Bool
  /-- Whether the character is a digit. -/
  digit : Bool
deriving DecidableEq, Repr

/-- The profile of a character. -/
def Profile.ofChar (c : Char) : Except DelimiterError Profile := do
  let alone ← scan [c]
  let joined ← scan ['x', c]
  return {
    alone := alone.lexemes.head?.map (·.kind)
    joins := joined.lexemes.length == 1
    digit := isDigit c
  }

/-- Neighbouring code points whose characters have one profile, ends included. -/
structure ProfileRun where
  first : Nat
  last : Nat
  profile : Profile
deriving DecidableEq, Repr

namespace ProfileRun

/-- Puts a code point in front of runs, into the first run if it belongs there. -/
def push (n : Nat) (p : Profile) : List ProfileRun → List ProfileRun
  | [] => [⟨n, n, p⟩]
  | run :: runs =>
    if run.first = n + 1 ∧ run.profile = p then { run with first := n } :: runs
    else ⟨n, n, p⟩ :: run :: runs

/-- Puts a code point in front of runs, unless it is no character. -/
def pushChar (n : Nat) (runs : List ProfileRun) : Except DelimiterError (List ProfileRun) := do
  if n.isValidChar then
    let p ← Profile.ofChar (Char.ofNat n)
    return push n p runs
  else return runs

/-- The longest runs among the characters from `lo` to `hi`. Code points that are no character end
a run. -/
def between (lo hi : Nat) : Except DelimiterError (List ProfileRun) :=
  (List.range' lo (hi + 1 - lo)).foldrM pushChar []

end ProfileRun

end Highlight
