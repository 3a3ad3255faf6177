/-
What the models use of the interpreter beyond integers, strings and JSON
text: `str` and `int` of a JSON value, truth of one, and
`datetime.fromisoformat`. The text of a container, the whole part of a float,
the accepted date formats and the floats that a database column keeps (it
drops the sign of a negative zero) are left to the interpreter (`PyRuntime`);
no result depends on them.
-/
import ThreeAgent.Lib.Clock
import ThreeAgent.Lib.Json

namespace PyJson

/-- A `datetime`: the wall clock reading and the offset from UTC of an aware one, in microseconds. -/
structure DateTime where
  wall : Int
  offset : Option Int
  deriving DecidableEq, Repr

/-- The interpreter: floats, and the conversions the models leave to it. -/
class PyRuntime (F : Type) extends PyFloat F where
  /-- `str(x)` of a list or a dictionary. -/
  containerText : Json F → String
  /-- `int(x)` of a float, `none` for an infinity or a NaN. -/
  truncate : F → Option Int
  /-- `datetime.fromisoformat(text)`, `none` for the `ValueError`. -/
  fromIso : String → Option DateTime
  /-- What a REAL column of the database gives back of a float. -/
  realColumn : F → F

namespace Json

variable {F : Type} [PyRuntime F]

/-- `str(v)`. -/
def toStr : Json F → String
  | .null => "None"
  | .bool true => "True"
  | .bool false => "False"
  | .int n => String.ofList (intText n)
  | .float x => String.ofList (PyFloat.repr x)
  | .str s => s
  | v => PyRuntime.containerText v

/-- `int(v)`, `none` for the `TypeError` or `ValueError`. -/
def toInt? : Json F → Option Int
  | .bool b => some (if b then 1 else 0)
  | .int n => some n
  | .float x => PyRuntime.truncate x
  | .str s => PyText.int? s
  | _ => none

/-- `bool(v)`. -/
def truthy : Json F → Bool
  | .null => false
  | .bool b => b
  | .int n => n != 0
  | .float x => !PyFloat.isZero x
  | .str s => s != ""
  | .arr xs => !xs.isEmpty
  | .obj kvs => !kvs.isEmpty

/-- `str(v or "")` of a looked-up value. -/
def textOr (v : Option (Json F)) : String :=
  match v with
  | none => ""
  | some v => if v.truthy then v.toStr else ""

end Json

namespace DateTime

/-- The instant of an aware `datetime`. -/
def instant? (d : DateTime) : Option Int := d.offset.map (d.wall - ·)

/-- `a < b`, `none` for the `TypeError` of an aware and a naive one. -/
def lt? (a b : DateTime) : Option Bool :=
  match a.offset, b.offset with
  | none, none => some (decide (a.wall < b.wall))
  | some o, some o' => some (decide (a.wall - o < b.wall - o'))
  | _, _ => none

end DateTime

end PyJson
