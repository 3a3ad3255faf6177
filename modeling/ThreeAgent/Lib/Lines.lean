/-
Lines of a text: `str.splitlines`, `str.rstrip` and the split at blank lines.
-/
import ThreeAgent.Lib.Text

namespace PyText

/-- A line boundary of `str.splitlines`. -/
def isLineBreak (c : Char) : Bool :=
  let n := c.toNat
  (0x0A ≤ n && n ≤ 0x0D) || (0x1C ≤ n && n ≤ 0x1E) || n == 0x85 || n == 0x2028 || n == 0x2029

/-- The lines, the first of them begun (its characters in reverse); `\r\n` is one boundary. -/
def linesFrom : List Char → List Char → List (List Char)
  | line, [] => if line = [] then [] else [line.reverse]
  | line, '\r' :: '\n' :: cs => line.reverse :: linesFrom [] cs
  | line, c :: cs => if isLineBreak c then line.reverse :: linesFrom [] cs else linesFrom (c :: line) cs

/-- `text.splitlines()`. -/
def splitlines (cs : List Char) : List (List Char) := linesFrom [] cs

/-- `text.rstrip()`. -/
def rstripList (cs : List Char) : List Char := cs.rdropWhile isSpace

/-- The rest after a match of `\n\s*\n` here: the white space after a line feed, up to its last line feed. -/
def blankLine? : List Char → Option (List Char)
  | '\n' :: cs =>
    let ws := cs.takeWhile isSpace
    if '\n' ∈ ws then some (ws.rtakeWhile (· ≠ '\n') ++ cs.dropWhile isSpace) else none
  | _ => none

/-- `re.split(r"\n\s*\n", text)`, the first part begun (its characters in reverse); the fuel is the length of the text. -/
def paragraphsFrom : Nat → List Char → List Char → List (List Char)
  | 0, part, _ => [part.reverse]
  | _ + 1, part, [] => [part.reverse]
  | fuel + 1, part, c :: cs =>
    match blankLine? (c :: cs) with
    | some rest => part.reverse :: paragraphsFrom fuel [] rest
    | none => paragraphsFrom fuel (c :: part) cs

def splitParagraphs (cs : List Char) : List (List Char) := paragraphsFrom cs.length [] cs

example : (splitParagraphs "a\n \n\n b\nc\n\n".toList).map String.ofList = ["a", " b\nc", ""] := by decide
example : (splitlines "a\r\nb\x0b\nc".toList).map String.ofList = ["a", "b", "", "c"] := by decide

/-! ## Texts of one line -/

theorem linesFrom_of_line {line cs : List Char} (h : ∀ c ∈ cs, isLineBreak c = false) (hne : line ++ cs ≠ []) :
    linesFrom line cs = [line.reverse ++ cs] := by
  induction cs generalizing line with
  | nil =>
    rw [List.append_nil] at hne
    simp [linesFrom, hne]
  | cons c cs ih =>
    have hc : isLineBreak c = false := h c (by simp)
    have hstep : linesFrom line (c :: cs) = linesFrom (c :: line) cs := by
      conv_lhs => unfold linesFrom
      split
      · simp_all
      · rename_i heq
        cases heq
        simp [isLineBreak] at hc
      · rename_i heq
        cases heq
        simp [hc]
    rw [hstep, ih (fun c hc => h c (by simp [hc])) (by simp)]
    simp

theorem linesFrom_append {line cs rest : List Char} (h : ∀ c ∈ cs, isLineBreak c = false) :
    linesFrom line (cs ++ '\n' :: rest) = (line.reverse ++ cs) :: linesFrom [] rest := by
  induction cs generalizing line with
  | nil =>
    show linesFrom line ('\n' :: rest) = _
    rw [linesFrom]
    · simp [isLineBreak]
    · simp
  | cons c cs ih =>
    have hc : isLineBreak c = false := h c (by simp)
    have hstep : linesFrom line (c :: (cs ++ '\n' :: rest)) = linesFrom (c :: line) (cs ++ '\n' :: rest) := by
      conv_lhs => unfold linesFrom
      split
      · simp_all
      · rename_i heq
        obtain ⟨hr, _⟩ := List.cons.inj heq
        subst hr
        simp [isLineBreak] at hc
      · rename_i heq
        obtain ⟨hr, hs⟩ := List.cons.inj heq
        subst hr hs
        simp [hc]
    rw [List.cons_append, hstep, ih fun c hc => h c (by simp [hc])]
    simp

theorem splitlines_flatMap {lines : List (List Char)} (h : ∀ line ∈ lines, ∀ c ∈ line, isLineBreak c = false) :
    splitlines (lines.flatMap (· ++ ['\n'])) = lines := by
  induction lines with
  | nil => rfl
  | cons line lines ih =>
    rw [List.flatMap_cons, List.append_assoc, List.singleton_append, splitlines, linesFrom_append (h line (by simp))]
    exact congrArg (line :: ·) (ih fun l hl => h l (by simp [hl]))

theorem splitlines_of_line {cs : List Char} (h : ∀ c ∈ cs, isLineBreak c = false) (hne : cs ≠ []) :
    splitlines cs = [cs] := by
  rw [splitlines, linesFrom_of_line h (by simpa using hne)]
  rfl

theorem paragraphsFrom_of_line {cs : List Char} (h : '\n' ∉ cs) (fuel : Nat) (part : List Char) (hf : cs.length ≤ fuel) :
    paragraphsFrom fuel part cs = [part.reverse ++ cs] := by
  induction cs generalizing fuel part with
  | nil => cases fuel <;> simp [paragraphsFrom]
  | cons c cs ih =>
    obtain ⟨fuel, rfl⟩ : ∃ n, fuel = n + 1 := ⟨fuel - 1, by simp at hf; omega⟩
    rw [List.mem_cons, not_or] at h
    have hblank : blankLine? (c :: cs) = none := by
      unfold blankLine?
      split
      · rename_i heq
        cases heq
        exact absurd rfl h.1
      · rfl
    simp only [paragraphsFrom, hblank]
    rw [ih h.2 fuel (c :: part) (by simpa using hf)]
    simp

theorem splitParagraphs_of_line {cs : List Char} (h : '\n' ∉ cs) : splitParagraphs cs = [cs] :=
  paragraphsFrom_of_line h cs.length [] le_rfl

end PyText
