/-
`LIKE` as SQLite compares it: `%` stands for any text and `_` for one
character, an escaped character stands for itself, and the letters of ASCII
are taken without their case. A text that is escaped and followed by `%`
matches what starts with it, up to that case (`like_escape`).
-/
import ThreeAgent.Lib.Text

namespace SqlLike

open PyText

/-- A character as `LIKE` compares it. -/
def fold (c : Char) : Char := if 'A' ≤ c ∧ c ≤ 'Z' then Char.ofNat (c.toNat + 32) else c

/-- `text LIKE pattern ESCAPE '\'`, where the character before the pattern may have been the escape. -/
def likeFrom (escaped : Bool) : List Char → List Char → Bool
  | [], text => !escaped && text.isEmpty
  | c :: pattern, text =>
    if escaped then
      match text with
      | [] => false
      | d :: text => decide (fold c = fold d) && likeFrom false pattern text
    else if c = '%' then text.tails.any (likeFrom false pattern)
    else if c = '\\' then likeFrom true pattern text
    else
      match text with
      | [] => false
      | d :: text => (c = '_' || decide (fold c = fold d)) && likeFrom false pattern text

/-- `text LIKE pattern ESCAPE '\'`. -/
def like (pattern text : String) : Bool := likeFrom false pattern.toList text.toList

/-- `text.replace("\\", "\\\\").replace("%", "\\%").replace("_", "\\_")`. -/
def escape (text : String) : String := replace (replace (replace text "\\" "\\\\") "%" "\\%") "_" "\\_"

theorem likeFrom_percent (pattern text : List Char) :
    likeFrom false ('%' :: pattern) text = text.tails.any (likeFrom false pattern) := by
  cases text <;> simp [likeFrom]

theorem likeFrom_slash (pattern text : List Char) :
    likeFrom false ('\\' :: pattern) text = likeFrom true pattern text := by
  cases text <;> simp [likeFrom]

theorem likeFrom_escaped (c : Char) (pattern text : List Char) : likeFrom true (c :: pattern) text = true ↔
    ∃ d rest, text = d :: rest ∧ fold c = fold d ∧ likeFrom false pattern rest = true := by
  cases text <;> simp [likeFrom]

theorem likeFrom_plain {c : Char} (h : ¬ (c = '\\' ∨ c = '%' ∨ c = '_')) (pattern text : List Char) :
    likeFrom false (c :: pattern) text = true ↔
      ∃ d rest, text = d :: rest ∧ fold c = fold d ∧ likeFrom false pattern rest = true := by
  obtain ⟨hslash, h⟩ := not_or.mp h
  obtain ⟨hpercent, hline⟩ := not_or.mp h
  cases text <;> simp [likeFrom, hslash, hpercent, hline]

/-- A text with its wildcards escaped. -/
def escaping (cs : List Char) : List Char :=
  cs.flatMap fun c => if c = '\\' ∨ c = '%' ∨ c = '_' then ['\\', c] else [c]

theorem likeFrom_escaping (cs pattern text : List Char) : likeFrom false (escaping cs ++ pattern) text = true ↔
    ∃ front rest, text = front ++ rest ∧ front.map fold = cs.map fold ∧ likeFrom false pattern rest = true := by
  induction cs generalizing text with
  | nil =>
    constructor
    · intro h
      exact ⟨[], text, rfl, rfl, h⟩
    · intro ⟨front, rest, htext, hfront, h⟩
      rw [List.map_nil, List.map_eq_nil_iff] at hfront
      subst hfront
      rw [htext]
      exact h
  | cons c cs ih =>
    have hstep : likeFrom false (escaping (c :: cs) ++ pattern) text = true ↔
        ∃ d rest, text = d :: rest ∧ fold c = fold d ∧ likeFrom false (escaping cs ++ pattern) rest = true := by
      by_cases hspecial : c = '\\' ∨ c = '%' ∨ c = '_'
      · have hcons : escaping (c :: cs) ++ pattern = '\\' :: c :: (escaping cs ++ pattern) := by
          simp [escaping, hspecial]
        rw [hcons, likeFrom_slash, likeFrom_escaped]
      · have hcons : escaping (c :: cs) ++ pattern = c :: (escaping cs ++ pattern) := by
          simp [escaping, hspecial]
        rw [hcons, likeFrom_plain hspecial]
    rw [hstep]
    constructor
    · intro ⟨d, rest, htext, hfold, hrest⟩
      obtain ⟨front, rest', rfl, hfront, hmatch⟩ := (ih rest).mp hrest
      exact ⟨d :: front, rest', htext, by rw [List.map_cons, List.map_cons, hfold, hfront], hmatch⟩
    · intro ⟨front, rest, htext, hfront, hmatch⟩
      cases front with
      | nil => cases hfront
      | cons d front =>
        rw [List.map_cons, List.map_cons, List.cons.injEq] at hfront
        exact ⟨d, front ++ rest, htext, hfront.1.symm, (ih _).mpr ⟨front, rest, rfl, hfront.2, hmatch⟩⟩

theorem replaceList_single (c : Char) (new : List Char) {n : Nat} {cs : List Char} (h : cs.length ≤ n) :
    replaceList [c] new n cs = cs.flatMap fun d => if d = c then new else [d] := by
  induction n generalizing cs with
  | zero => rw [List.length_eq_zero_iff.mp (Nat.le_zero.mp h), replaceList, List.flatMap_nil]
  | succ n ih =>
    cases cs with
    | nil => rfl
    | cons d cs =>
      rw [List.length_cons] at h
      rw [replaceList, List.flatMap_cons]
      by_cases hd : d = c
      · subst hd
        simp [ih (Nat.le_of_succ_le_succ h)]
      · have hne : ¬ c = d := fun hc => hd hc.symm
        simp [ih (Nat.le_of_succ_le_succ h), hd, hne]

theorem toList_replace_single (text old new : String) (c : Char) (hold : old.toList = [c]) :
    (replace text old new).toList = text.toList.flatMap fun d => if d = c then new.toList else [d] := by
  rw [replace, String.toList_ofList, hold, replaceList_single c _ le_rfl]

theorem toList_escape (text : String) : (escape text).toList = escaping text.toList := by
  rw [escape, toList_replace_single _ "_" "\\_" '_' rfl, toList_replace_single _ "%" "\\%" '%' rfl,
    toList_replace_single _ "\\" "\\\\" '\\' rfl, List.flatMap_assoc, List.flatMap_assoc, escaping]
  refine List.flatMap_congr ?_
  intro c _
  by_cases hslash : c = '\\'
  · subst hslash
    rfl
  · by_cases hpercent : c = '%'
    · subst hpercent
      rfl
    · by_cases hline : c = '_'
      · subst hline
        rfl
      · simp [hslash, hpercent, hline]

theorem like_escape (start text : String) :
    like (escape start ++ "%") text = true ↔ start.toList.map fold <+: text.toList.map fold := by
  rw [like, String.toList_append, toList_escape, likeFrom_escaping]
  constructor
  · intro ⟨front, rest, htext, hfront, _⟩
    rw [htext, List.map_append, hfront]
    exact List.prefix_append _ _
  · intro ⟨rest, hrest⟩
    obtain ⟨front, tail, htext, hfront, -⟩ := List.map_eq_append_iff.mp hrest.symm
    refine ⟨front, tail, htext, hfront, ?_⟩
    change likeFrom false ['%'] tail = true
    rw [likeFrom_percent, List.any_eq_true]
    exact ⟨[], (List.mem_tails _ _).mpr List.nil_suffix, rfl⟩

end SqlLike
