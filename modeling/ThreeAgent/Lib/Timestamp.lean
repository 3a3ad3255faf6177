/-
Texts of times. Which texts `datetime.fromisoformat` accepts, and what it reads
from them, is left to the interpreter (`PyTime`); of the text that `isoformat`
writes it is known that it reads back as the time it was written for.
-/
import ThreeAgent.Lib.Runtime

open PyJson

/-- The interpreter's reading and writing of times. -/
class PyTime where
  /-- `datetime.fromisoformat(text.replace("Z", "+00:00"))`, `none` for the `ValueError`. -/
  read : String → Option DateTime
  /-- `t.astimezone(timezone.utc).isoformat().replace("+00:00", "Z")` of an instant, `none` for the
  `OverflowError` of a date out of range. -/
  write : Int → Option String
  read_write : ∀ t s, write t = some s → read s = some ⟨t, some 0⟩
  strip_write : ∀ t s, write t = some s → PyText.strip s = s

namespace PyTime

/-- The instant that the text of an aware time denotes. -/
def instant? [PyTime] (text : String) : Option Int := (read text).bind DateTime.instant?

theorem instant?_write [PyTime] {t : Int} {s : String} (h : write t = some s) : instant? s = some t := by
  simp [instant?, read_write t s h, DateTime.instant?]

/-- An interpreter that knows the texts of a few times, each written in UTC. -/
@[reducible] def ofTable (table : List (String × Int)) (hread : ∀ e ∈ table, ∀ e' ∈ table, e.1 = e'.1 → e.2 = e'.2)
    (hstrip : ∀ e ∈ table, PyText.strip e.1 = e.1) : PyTime where
  read s := (table.find? (·.1 = s)).map fun e => ⟨e.2, some 0⟩
  write t := (table.find? (·.2 = t)).map Prod.fst
  read_write := by
    intro t s h
    obtain ⟨e, he, rfl⟩ := Option.map_eq_some_iff.mp h
    have hmem := List.mem_of_find?_eq_some he
    have ht : e.2 = t := by simpa using List.find?_some he
    obtain ⟨e', he'⟩ : ∃ e', table.find? (·.1 = e.1) = some e' := by
      rw [← Option.isSome_iff_exists, List.find?_isSome]
      exact ⟨e, hmem, by simp⟩
    have hkey : e'.1 = e.1 := by simpa using List.find?_some he'
    have := hread e' (List.mem_of_find?_eq_some he') e hmem hkey
    simp [he', this, ht]
  strip_write := by
    intro t s h
    obtain ⟨e, he, rfl⟩ := Option.map_eq_some_iff.mp h
    exact hstrip e (List.mem_of_find?_eq_some he)

end PyTime
