/-
Python values as `json.dumps` takes them: lists and tuples, and dictionaries
whose keys are strings, numbers, booleans or `None`. With `sort_keys=True` the
items of a dictionary are sorted by their keys as Python compares them, and
written under the texts of the keys.
-/
import ThreeAgent.Lib.JsonFloat

namespace PyJson

/-- A key that `json.dumps` takes. -/
inductive Key (F : Type) where
  | str (s : String)
  | num (n : Num F)
  | bool (b : Bool)
  | none
  deriving DecidableEq, Repr

/-- A value that `json.dumps` takes. -/
inductive Value (F : Type) where
  | null
  | bool (b : Bool)
  | int (n : Int)
  | float (x : F)
  | str (s : String)
  | arr (vs : List (Value F))
  | obj (kvs : List (Key F × Value F))

namespace Key

variable {F : Type} [JsonFloat F]

/-- The number that a key is, where it is one. -/
def number? : Key F → Option (Num F)
  | .num n => some n
  | .bool b => some (.int (if b then 1 else 0))
  | _ => Option.none

/-- `a < b`, false where Python raises. -/
def lt (a b : Key F) : Bool :=
  match a, b with
  | .str s, .str t => decide (s < t)
  | a, b =>
    match a.number?, b.number? with
    | some m, some n => Num.lt m n
    | _, _ => false

/-- The text of a key, `none` for the `ValueError` of an integer that is too long. -/
def text? : Key F → Option String
  | .str s => some s
  | .num (.int n) => if n.natAbs < 10 ^ PyText.maxStrDigits then some (String.ofList (intText n)) else Option.none
  | .num (.float x) => some (String.ofList (spellFloat x))
  | .bool true => some "true"
  | .bool false => some "false"
  | .none => some "null"

def isStr : Key F → Bool
  | .str _ => true
  | _ => false

/-- Keys that can be sorted: `<` does not raise `TypeError` between any two of them. -/
def sortable (ks : List (Key F)) : Bool :=
  decide (ks.length ≤ 1) || ks.all isStr || ks.all fun k => k.number?.isSome

end Key

/-- `sorted(dct.items())` of the items of a dictionary. Where `<` does not decide between two keys, as with a NaN, the
order is the algorithm's. -/
class SortsItems (F : Type) [JsonFloat F] where
  sort : List (Key F × Json F) → List (Key F × Json F)
  perm : ∀ items, (sort items).Perm items
  ascending : ∀ items, items.Pairwise (fun a b => a.1.lt b.1 = true ∨ b.1.lt a.1 = true) →
    (sort items).Pairwise fun a b => a.1.lt b.1 = true

namespace Value

variable {F : Type} [JsonFloat F] [SortsItems F]

/-- The items of a dictionary under the texts of their keys, in the order in which they are written. -/
def items? (items : List (Key F × Json F)) : Option (List (String × Json F)) :=
  if Key.sortable (items.map Prod.fst) then
    (SortsItems.sort items).mapM fun e => e.1.text?.map fun key => (key, e.2)
  else none

mutual

/-- A value as it is written, `none` where `json.dumps` raises for a key. -/
def written? : Value F → Option (Json F)
  | .null => some .null
  | .bool b => some (.bool b)
  | .int n => some (.int n)
  | .float x => some (.float x)
  | .str s => some (.str s)
  | .arr vs => (elemsWritten? vs).map .arr
  | .obj kvs => do
    let items ← entriesWritten? kvs
    (items? items).map .obj

def elemsWritten? : List (Value F) → Option (List (Json F))
  | [] => some []
  | v :: vs => do
    let v ← written? v
    let vs ← elemsWritten? vs
    return v :: vs

def entriesWritten? : List (Key F × Value F) → Option (List (Key F × Json F))
  | [] => some []
  | (k, v) :: kvs => do
    let v ← written? v
    let kvs ← entriesWritten? kvs
    return (k, v) :: kvs

end

/-- `json.dumps(value, ensure_ascii=False, sort_keys=True, separators=(",", ":"))`, `none` where it raises. -/
def dumps (v : Value F) : Option String := v.written?.bind dumpsLax

/-- In every dictionary of the value, the texts of the keys ascend strictly in the order of the keys. -/
def Ascending (v : Value F) : Prop := ∀ w ∈ v.written?, Canonical w

end Value

end PyJson
