/-
Regular expressions of Python's `re` as they are searched for, not captured:
a pattern gives every place where a match that starts here may end. The order
of the alternatives and the greed of a repetition decide which match is found
and not whether one is, so they have no part here. The `\w` of the Unicode
database is a parameter.
-/
import ThreeAgent.Lib.Text

namespace Regex

inductive Pattern where
  | empty
  /-- One character of a class. -/
  | one (p : Char → Bool)
  /-- `\b`. -/
  | boundary
  | seq (p q : Pattern)
  | alt (p q : Pattern)
  /-- `p*`. -/
  | star (p : Pattern)

/-- A place in a text: the character before it, and the rest. -/
structure Place where
  before : Option Char
  rest : List Char
  deriving DecidableEq, Repr

namespace Pattern

/-- `p+`. -/
def plus (p : Pattern) : Pattern := .seq p (.star p)

/-- `p?`. -/
def opt (p : Pattern) : Pattern := .alt .empty p

/-- `\s`. -/
def space : Pattern := .one PyText.isSpace

/-- Whether a character matches a lower-case ASCII letter or another character under `(?i)`: the letter itself, its
capital, and the few characters that lower to it or are paired with it. -/
def ignoreCase (a c : Char) : Bool :=
  c = a || (c.toNat + 32 = a.toNat && 65 ≤ c.toNat && c.toNat ≤ 90) ||
    (a = 'i' && (c.toNat = 0x130 || c.toNat = 0x131)) || (a = 's' && c.toNat = 0x17F) || (a = 'k' && c.toNat = 0x212A)

/-- A word, under `(?i)`. -/
def word (s : String) : Pattern := s.toList.foldr (fun a p => .seq (.one (ignoreCase a)) p) .empty

/-- `(a|b|…)` of words. -/
def words : List String → Pattern
  | [] => .one fun _ => false
  | s :: ss => .alt (word s) (words ss)

end Pattern

/-- Repetition of a step that goes forward; the fuel is the length of the rest. -/
def repeated (f : Place → List Place) : Nat → Place → List Place
  | 0, s => [s]
  | fuel + 1, s => s :: ((f s).filter fun t => t.rest.length < s.rest.length).flatMap (repeated f fuel)

section Search

variable (isWord : Char → Bool)

/-- Where a match that starts at the place may end. -/
def ends : Pattern → Place → List Place
  | .empty, s => [s]
  | .one p, s =>
    match s.rest with
    | [] => []
    | c :: rest => if p c then [⟨some c, rest⟩] else []
  | .boundary, s => if (s.before.any isWord) = (s.rest.head?.any isWord) then [] else [s]
  | .seq p q, s => (ends p s).flatMap (ends q)
  | .alt p q, s => ends p s ++ ends q s
  | .star p, s => repeated (ends p) s.rest.length s

/-- The places of a text, from the first on. -/
def places : Option Char → List Char → List Place
  | before, [] => [⟨before, []⟩]
  | before, c :: rest => ⟨before, c :: rest⟩ :: places (some c) rest

/-- `pattern.search(text) is not None`. -/
def search (p : Pattern) (cs : List Char) : Bool := (places none cs).any fun s => !(ends isWord p s).isEmpty

end Search

example : search PyText.isAsciiAlnum (.seq .boundary (.seq (.word "system") (.seq (.star .space) (.one (· = ':')))))
    "the SYSTEM :".toList = true := by decide
example : search PyText.isAsciiAlnum (.seq .boundary (.seq (.word "system") (.seq (.star .space) (.one (· = ':')))))
    "ecosystem:".toList = false := by decide

end Regex
