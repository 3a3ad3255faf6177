/-
JSON as Python's `json` module reads and writes it: `dumps` with sorted keys
and the compact separators, and `loads`.

A dictionary is kept as its list of entries in key order, which is all that
a canonical text shows of it; `dict` builds one from entries in any order,
the last of two equal keys winning. Floating point is a parameter: `PyFloat`
has the operations the models call and, as its only laws, those that are
documented: `repr` writes a finite float as a number token, the token reads
back as the same float, and a float equal to an integer compares as it does.
-/
import Mathlib.Algebra.Ring.Int.Defs
import ThreeAgent.Lib.Text

namespace PyJson

/-- `int | float`. -/
inductive Num (F : Type) where
  | int (n : Int)
  | float (x : F)
  deriving DecidableEq, Repr

def isDigit (c : Char) : Bool := '0' ≤ c && c ≤ '9'

/-- The text of a JSON number with a fraction or an exponent:
`-?(0|[1-9][0-9]*)(\.[0-9]+)?([eE][+-]?[0-9]+)?`, its parts given. -/
structure FloatToken where
  negative : Bool
  whole : List Char
  fraction : List Char
  exponent : Option (List Char × List Char)

namespace FloatToken

def exponentText : Option (List Char × List Char) → List Char
  | none => []
  | some (mark, digits) => mark ++ digits

def text (t : FloatToken) : List Char :=
  (if t.negative then ['-'] else []) ++ t.whole ++
    (if t.fraction = [] then [] else '.' :: t.fraction) ++ exponentText t.exponent

/-- The exponent marks, with and without a sign. -/
def marks : List (List Char) := [['e'], ['e', '-'], ['e', '+'], ['E'], ['E', '-'], ['E', '+']]

structure Valid (t : FloatToken) : Prop where
  whole_ne : t.whole ≠ []
  whole_digits : ∀ c ∈ t.whole, isDigit c = true
  whole_lead : t.whole.head? = some '0' → t.whole = ['0']
  fraction_digits : ∀ c ∈ t.fraction, isDigit c = true
  exponent_mark : ∀ m ds, t.exponent = some (m, ds) → m ∈ marks ∧ ds ≠ [] ∧ ∀ c ∈ ds, isDigit c = true
  not_int : t.fraction ≠ [] ∨ t.exponent ≠ none

end FloatToken

/-- Python's `float`, as far as the models use it. -/
class PyFloat (F : Type) where
  isFinite : F → Bool
  /-- `repr(x)`. -/
  repr : F → List Char
  /-- `float(token)` of a number token. -/
  ofToken : List Char → F
  nan : F
  inf : F
  negInf : F
  /-- `float(n)`, `none` for the `OverflowError`. -/
  ofInt : Int → Option F
  /-- `x == 0`. -/
  isZero : F → Bool
  /-- `x == n`. -/
  eqInt : F → Int → Bool
  /-- `x < y` when at least one of the two is a float. -/
  lt : Num F → Num F → Bool
  /-- `sum(xs)` when at least one of the numbers is a float, `none` for the `OverflowError`. -/
  sum : List (Num F) → Option F
  repr_token : ∀ x, isFinite x = true → ∃ t : FloatToken, t.Valid ∧ repr x = t.text
  ofToken_repr : ∀ x, isFinite x = true → ofToken (repr x) = x
  lt_int : ∀ x n, eqInt x n = true → ∀ m, lt (.float x) (.int m) = decide (n < m)
  int_lt : ∀ x n, eqInt x n = true → ∀ m, lt (.int m) (.float x) = decide (m < n)
  lt_float : ∀ x n, eqInt x n = true → ∀ y, lt (.float x) (.float y) = lt (.int n) (.float y)
  float_lt : ∀ x n, eqInt x n = true → ∀ y, lt (.float y) (.float x) = lt (.float y) (.int n)

/-- A float type with nothing finite in it, for texts that hold no float. -/
instance : PyFloat Unit where
  isFinite _ := false
  repr _ := []
  ofToken _ := ()
  nan := ()
  inf := ()
  negInf := ()
  ofInt _ := none
  isZero _ := false
  eqInt _ _ := false
  lt _ _ := false
  sum _ := none
  repr_token _ h := by simp at h
  ofToken_repr _ h := by simp at h
  lt_int _ _ h := by simp at h
  int_lt _ _ h := by simp at h
  lt_float _ _ h := by simp at h
  float_lt _ _ h := by simp at h

namespace Num

variable {F : Type} [PyFloat F]

/-- `a < b`. -/
def lt : Num F → Num F → Bool
  | .int a, .int b => decide (a < b)
  | a, b => PyFloat.lt a b

/-- `sum(xs)`. -/
def sum (xs : List (Num F)) : Option (Num F) :=
  if xs.all fun x => match x with | .int _ => true | .float _ => false then
    some (.int (xs.map fun x => match x with | .int n => n | .float _ => 0).sum)
  else (PyFloat.sum xs).map .float

/-- `float(a)`. -/
def toFloat : Num F → Option F
  | .int n => PyFloat.ofInt n
  | .float x => some x

end Num

inductive Json (F : Type) where
  | null
  | bool (b : Bool)
  | int (n : Int)
  | float (x : F)
  | str (s : String)
  | arr (xs : List (Json F))
  | obj (kvs : List (String × Json F))

namespace Json

variable {F : Type}

/-- `None` for an absent value. -/
def ofOption {α : Type} (f : α → Json F) : Option α → Json F
  | none => .null
  | some a => f a

def strs (xs : List String) : Json F := .arr (xs.map .str)

/-- Set a key of an entry list kept in key order. -/
def insertKey (k : String) (v : Json F) : List (String × Json F) → List (String × Json F)
  | [] => [(k, v)]
  | (k', v') :: kvs =>
    if k < k' then (k, v) :: (k', v') :: kvs
    else if k = k' then (k, v) :: kvs
    else (k', v') :: insertKey k v kvs

/-- A dictionary from its entries, in any order; a later entry overwrites an earlier one. -/
def dict (kvs : List (String × Json F)) : Json F :=
  .obj (kvs.foldl (fun acc kv => insertKey kv.1 kv.2 acc) [])

/-- `value[key] = v` of a dictionary. -/
def setKey : Json F → String → Json F → Json F
  | .obj kvs, k, v => .obj (insertKey k v kvs)
  | value, _, _ => value

/-- `isinstance(value, dict)`. -/
def isDict : Json F → Bool
  | .obj _ => true
  | _ => false

/-- `list(value)` of a dictionary. -/
def keys : Json F → List String
  | .obj kvs => kvs.map Prod.fst
  | _ => []

/-- `isinstance(value, dict) and set(value) == {...}`. -/
def hasKeys (v : Json F) (expected : List String) : Bool :=
  v.isDict && v.keys.all (· ∈ expected) && expected.all (· ∈ v.keys)

/-- `value == text`. -/
def isText : Json F → String → Bool
  | .str s, t => s = t
  | _, _ => false

/-- `type(value).__name__`. -/
def typeName : Json F → String
  | .null => "NoneType"
  | .bool _ => "bool"
  | .int _ => "int"
  | .float _ => "float"
  | .str _ => "str"
  | .arr _ => "list"
  | .obj _ => "dict"

/-- `value.get(key)` of a dictionary; `none` when absent or not a dictionary. -/
def get? : Json F → String → Option (Json F)
  | .obj kvs, k => kvs.lookup k
  | _, _ => none

/-- `value[key]` of a dictionary that has the key. -/
def item (v : Json F) (k : String) : Json F := (v.get? k).getD .null

end Json

/-! ## Writing -/

section Write

variable {F : Type} [PyFloat F]

def hex4 (n : Nat) : List Char :=
  [Nat.digitChar (n / 4096 % 16), Nat.digitChar (n / 256 % 16), Nat.digitChar (n / 16 % 16), Nat.digitChar (n % 16)]

/-- One character of a string, escaped as with `ensure_ascii=False`. -/
def escapeChar (c : Char) : List Char :=
  if c = '"' then ['\\', '"']
  else if c = '\\' then ['\\', '\\']
  else if c = '\n' then ['\\', 'n']
  else if c = '\r' then ['\\', 'r']
  else if c = '\t' then ['\\', 't']
  else if c.toNat = 8 then ['\\', 'b']
  else if c.toNat = 12 then ['\\', 'f']
  else if c.toNat < 32 then '\\' :: 'u' :: hex4 c.toNat
  else [c]

def stringText (s : String) : List Char := '"' :: s.toList.flatMap escapeChar ++ ['"']

/-- `int.__repr__`. -/
def intText : Int → List Char
  | .ofNat n => Nat.toDigits 10 n
  | .negSucc n => '-' :: Nat.toDigits 10 (n + 1)

mutual

/-- The text of a value. -/
def text : Json F → List Char
  | .null => ['n', 'u', 'l', 'l']
  | .bool true => ['t', 'r', 'u', 'e']
  | .bool false => ['f', 'a', 'l', 's', 'e']
  | .int n => intText n
  | .float x => PyFloat.repr x
  | .str s => stringText s
  | .arr [] => ['[', ']']
  | .arr (v :: vs) => '[' :: (text v ++ elemsText vs)
  | .obj [] => ['\x7b', '\x7d']
  | .obj ((k, v) :: kvs) => '\x7b' :: (stringText k ++ ':' :: (text v ++ entriesText kvs))

/-- The elements after the first, and the closing bracket. -/
def elemsText : List (Json F) → List Char
  | [] => [']']
  | v :: vs => ',' :: (text v ++ elemsText vs)

/-- The entries after the first, and the closing brace. -/
def entriesText : List (String × Json F) → List Char
  | [] => ['\x7d']
  | (k, v) :: kvs => ',' :: (stringText k ++ ':' :: (text v ++ entriesText kvs))

end

mutual

/-- Whether `dumps(..., allow_nan=False)` writes the value: every float in it is finite and no
integer is too long to convert. -/
def dumpable : Json F → Bool
  | .int n => decide (n.natAbs < 10 ^ PyText.maxStrDigits)
  | .float x => PyFloat.isFinite x
  | .arr vs => elemsDumpable vs
  | .obj kvs => entriesDumpable kvs
  | _ => true

def elemsDumpable : List (Json F) → Bool
  | [] => true
  | v :: vs => dumpable v && elemsDumpable vs

def entriesDumpable : List (String × Json F) → Bool
  | [] => true
  | (_, v) :: kvs => dumpable v && entriesDumpable kvs

end

/-- `json.dumps(v, ensure_ascii=False, sort_keys=True, separators=(",", ":"), allow_nan=False)`,
`none` for its `ValueError`. -/
def dumps (v : Json F) : Option String :=
  if dumpable v then some (String.ofList (text v)) else none

end Write

/-! ## Reading -/

section Read

variable {F : Type} [PyFloat F]

def isWs (c : Char) : Bool := c = ' ' || c = '\t' || c = '\n' || c = '\r'

def skipWs (cs : List Char) : List Char := cs.dropWhile isWs

def hexValue (c : Char) : Option Nat :=
  if '0' ≤ c ∧ c ≤ '9' then some (c.toNat - '0'.toNat)
  else if 'a' ≤ c ∧ c ≤ 'f' then some (c.toNat - 'a'.toNat + 10)
  else if 'A' ≤ c ∧ c ≤ 'F' then some (c.toNat - 'A'.toNat + 10)
  else none

def readHex4 : List Char → Option (Nat × List Char)
  | a :: b :: c :: d :: rest => do
    let a ← hexValue a
    let b ← hexValue b
    let c ← hexValue c
    let d ← hexValue d
    some (((a * 16 + b) * 16 + c) * 16 + d, rest)
  | _ => none

/-- The escape after a backslash. A surrogate pair is one character; a lone surrogate has no
character here and is refused. -/
def readEscape : List Char → Option (Char × List Char)
  | '"' :: rest => some ('"', rest)
  | '\\' :: rest => some ('\\', rest)
  | '/' :: rest => some ('/', rest)
  | 'b' :: rest => some (Char.ofNat 8, rest)
  | 'f' :: rest => some (Char.ofNat 12, rest)
  | 'n' :: rest => some ('\n', rest)
  | 'r' :: rest => some ('\r', rest)
  | 't' :: rest => some ('\t', rest)
  | 'u' :: rest => do
    let (n, rest) ← readHex4 rest
    if n < 0xD800 ∨ 0xDFFF < n then some (Char.ofNat n, rest)
    else
      match rest with
      | '\\' :: 'u' :: rest => do
        let (m, rest) ← readHex4 rest
        if n ≤ 0xDBFF ∧ 0xDC00 ≤ m ∧ m ≤ 0xDFFF then
          some (Char.ofNat (0x10000 + (n - 0xD800) * 0x400 + (m - 0xDC00)), rest)
        else none
      | _ => none
  | _ => none

/-- The characters of a string up to its closing quote; control characters are refused. -/
def readString : Nat → List Char → Option (List Char × List Char)
  | 0, _ => none
  | _ + 1, [] => none
  | fuel + 1, c :: rest =>
    if c = '"' then some ([], rest)
    else if c = '\\' then do
      let (d, rest) ← readEscape rest
      let (s, rest) ← readString fuel rest
      some (d :: s, rest)
    else if c.toNat < 32 then none
    else do
      let (s, rest) ← readString fuel rest
      some (c :: s, rest)

def natOfDigits (cs : List Char) : Nat := cs.foldl (fun n c => 10 * n + (c.toNat - '0'.toNat)) 0

/-- A fraction: a point and at least one digit. -/
def readFraction : List Char → List Char × List Char
  | '.' :: rest =>
    if (rest.takeWhile isDigit).isEmpty then ([], '.' :: rest)
    else (rest.takeWhile isDigit, rest.dropWhile isDigit)
  | cs => ([], cs)

/-- An exponent's mark, with its sign. -/
def readMark : List Char → Option (List Char × List Char)
  | 'e' :: '-' :: rest => some (['e', '-'], rest)
  | 'e' :: '+' :: rest => some (['e', '+'], rest)
  | 'e' :: rest => some (['e'], rest)
  | 'E' :: '-' :: rest => some (['E', '-'], rest)
  | 'E' :: '+' :: rest => some (['E', '+'], rest)
  | 'E' :: rest => some (['E'], rest)
  | _ => none

/-- An exponent: a mark and at least one digit. -/
def readExponent (cs : List Char) : Option (List Char × List Char) × List Char :=
  match readMark cs with
  | none => (none, cs)
  | some (m, rest) =>
    if (rest.takeWhile isDigit).isEmpty then (none, cs)
    else (some (m, rest.takeWhile isDigit), rest.dropWhile isDigit)

/-- A number after its sign: an integer, or a float when a fraction or an exponent follows. -/
def readNumber (negative : Bool) (cs : List Char) : Option (Json F × List Char) :=
  let whole := if cs.head? = some '0' then ['0'] else cs.takeWhile isDigit
  let rest := if cs.head? = some '0' then cs.tail else cs.dropWhile isDigit
  if whole.isEmpty then none
  else
    let fraction := readFraction rest
    let exponent := readExponent fraction.2
    if fraction.1 = [] ∧ exponent.1 = none then
      if whole.length > PyText.maxStrDigits then none
      else
        let n : Int := natOfDigits whole
        some (.int (if negative then -n else n), exponent.2)
    else
      let token : FloatToken := ⟨negative, whole, fraction.1, exponent.1⟩
      some (.float (PyFloat.ofToken token.text), exponent.2)

mutual

/-- One value. The fuel bounds the length of the text. -/
def readValue : Nat → List Char → Option (Json F × List Char)
  | 0, _ => none
  | fuel + 1, cs =>
    match cs with
    | 'n' :: 'u' :: 'l' :: 'l' :: rest => some (.null, rest)
    | 't' :: 'r' :: 'u' :: 'e' :: rest => some (.bool true, rest)
    | 'f' :: 'a' :: 'l' :: 's' :: 'e' :: rest => some (.bool false, rest)
    | 'N' :: 'a' :: 'N' :: rest => some (.float PyFloat.nan, rest)
    | 'I' :: 'n' :: 'f' :: 'i' :: 'n' :: 'i' :: 't' :: 'y' :: rest => some (.float PyFloat.inf, rest)
    | '-' :: 'I' :: 'n' :: 'f' :: 'i' :: 'n' :: 'i' :: 't' :: 'y' :: rest =>
      some (.float PyFloat.negInf, rest)
    | '"' :: rest => do
      let (s, rest) ← readString (fuel + 1) rest
      some (.str (String.ofList s), rest)
    | '[' :: rest =>
      match skipWs rest with
      | ']' :: rest => some (.arr [], rest)
      | rest => do
        let (v, rest) ← readValue fuel rest
        let (vs, rest) ← readElems fuel (skipWs rest)
        some (.arr (v :: vs), rest)
    | '\x7b' :: rest =>
      match skipWs rest with
      | '\x7d' :: rest => some (.obj [], rest)
      | rest => do
        let (kv, rest) ← readEntry fuel rest
        let (kvs, rest) ← readEntries fuel (skipWs rest)
        some (Json.dict (kv :: kvs), rest)
    | '-' :: rest => readNumber true rest
    | cs => readNumber false cs

/-- The rest of an array, from the separator after an element. -/
def readElems : Nat → List Char → Option (List (Json F) × List Char)
  | 0, _ => none
  | fuel + 1, cs =>
    match cs with
    | ']' :: rest => some ([], rest)
    | ',' :: rest => do
      let (v, rest) ← readValue fuel (skipWs rest)
      let (vs, rest) ← readElems fuel (skipWs rest)
      some (v :: vs, rest)
    | _ => none

/-- A key, a colon and a value. -/
def readEntry : Nat → List Char → Option ((String × Json F) × List Char)
  | 0, _ => none
  | fuel + 1, cs =>
    match cs with
    | '"' :: rest => do
      let (k, rest) ← readString (fuel + 1) rest
      match skipWs rest with
      | ':' :: rest => do
        let (v, rest) ← readValue fuel (skipWs rest)
        some ((String.ofList k, v), rest)
      | _ => none
    | _ => none

/-- The rest of an object, from the separator after an entry. -/
def readEntries : Nat → List Char → Option (List (String × Json F) × List Char)
  | 0, _ => none
  | fuel + 1, cs =>
    match cs with
    | '\x7d' :: rest => some ([], rest)
    | ',' :: rest => do
      let (kv, rest) ← readEntry fuel (skipWs rest)
      let (kvs, rest) ← readEntries fuel (skipWs rest)
      some (kv :: kvs, rest)
    | _ => none

end

/-- `json.loads(text)`, `none` for the `JSONDecodeError` (and for an integer too long to convert). -/
def loads (s : String) : Option (Json F) :=
  match readValue (s.toList.length + 1) (skipWs s.toList) with
  | some (v, rest) => if skipWs rest = [] then some v else none
  | none => none

end Read

/-! ## Layouts -/

/-- Where the white space of a text stands: before an item or a closing bracket at a depth, and after a colon. -/
structure Layout where
  gap : Nat → List Char
  space : List Char
  gap_ws : ∀ d, ∀ c ∈ gap d, isWs c = true
  space_ws : ∀ c ∈ space, isWs c = true

/-- `separators=(",", ":")`. -/
def Layout.compact : Layout := ⟨fun _ => [], [], by simp, by simp⟩

/-- `indent=2`. -/
def Layout.indented : Layout where
  gap d := '\n' :: List.replicate (2 * d) ' '
  space := [' ']
  gap_ws := by
    intro d c hc
    rw [List.mem_cons, List.mem_replicate] at hc
    obtain rfl | ⟨-, rfl⟩ := hc <;> rfl
  space_ws := by
    intro c hc
    rw [List.mem_singleton] at hc
    subst hc
    rfl

section Layouts

variable {F : Type} (l : Layout) (spell : F → List Char)

mutual

/-- The text of a value at a depth, `spell` writing the floats. The entries of a dictionary stand in key order. -/
def layoutText : Nat → Json F → List Char
  | _, .null => ['n', 'u', 'l', 'l']
  | _, .bool true => ['t', 'r', 'u', 'e']
  | _, .bool false => ['f', 'a', 'l', 's', 'e']
  | _, .int n => intText n
  | _, .float x => spell x
  | _, .str s => stringText s
  | _, .arr [] => ['[', ']']
  | d, .arr (v :: vs) => '[' :: (l.gap (d + 1) ++ (layoutText (d + 1) v ++ elemsLayout d vs))
  | _, .obj [] => ['\x7b', '\x7d']
  | d, .obj ((k, v) :: kvs) =>
    '\x7b' :: (l.gap (d + 1) ++ (stringText k ++ ':' :: (l.space ++ (layoutText (d + 1) v ++ entriesLayout d kvs))))

def elemsLayout : Nat → List (Json F) → List Char
  | d, [] => l.gap d ++ [']']
  | d, v :: vs => ',' :: (l.gap (d + 1) ++ (layoutText (d + 1) v ++ elemsLayout d vs))

def entriesLayout : Nat → List (String × Json F) → List Char
  | d, [] => l.gap d ++ ['\x7d']
  | d, (k, v) :: kvs =>
    ',' :: (l.gap (d + 1) ++ (stringText k ++ ':' :: (l.space ++ (layoutText (d + 1) v ++ entriesLayout d kvs))))

end

end Layouts

mutual

/-- No integer of the value is too long to convert. -/
def shortInts {F : Type} : Json F → Bool
  | .int n => decide (n.natAbs < 10 ^ PyText.maxStrDigits)
  | .arr vs => elemsShortInts vs
  | .obj kvs => entriesShortInts kvs
  | _ => true

def elemsShortInts {F : Type} : List (Json F) → Bool
  | [] => true
  | v :: vs => shortInts v && elemsShortInts vs

def entriesShortInts {F : Type} : List (String × Json F) → Bool
  | [] => true
  | (_, v) :: kvs => shortInts v && entriesShortInts kvs

end

end PyJson
