/-
A cron field against its grammar (`_parse_cron_field`).

`CronItem` is the abstract syntax of an item and `CronItem.Text` its texts; a
text has one item at most. What the parser does with one item is said once
(`item_outcome`): it returns the values the item denotes, it refuses a text that
is no item within the bounds, or `int` refuses a number that `isdigit` let pass.
The field is read item by item, so the first one that is not accepted decides.
-/
import ThreeAgent.Lib.Digits
import ThreeAgent.PersistentScheduler

namespace ThreeAgent.PersistentScheduler

open PyText Outcome

/-! ## The grammar -/

/-- What an item with a step runs through. -/
inductive CronBase
  | star
  | range (start stop : Nat)

/-- An item of a field. -/
inductive CronItem
  | number (n : Nat)
  | span (base : CronBase) (step : Option Nat)

/-- The texts of a base. -/
inductive CronBase.Text : CronBase → String → Prop
  | star : Text .star "*"
  | range {left right : String} {a b : Nat} : Decimal left a → Decimal right b → Text (.range a b) (left ++ "-" ++ right)

/-- The texts of an item. -/
inductive CronItem.Text : CronItem → String → Prop
  | number {text : String} {n : Nat} : Decimal text n → Text (.number n) text
  | plain {text : String} {base : CronBase} : base.Text text → Text (.span base none) text
  | stepped {text stepText : String} {base : CronBase} {k : Nat} : base.Text text → Decimal stepText k →
      Text (.span base (some k)) (text ++ "/" ++ stepText)

namespace CronField

variable (f : CronField)

/-- A number that a field may hold; where Sunday has an alias, 7 is one of them. -/
def Admits (n : Nat) : Prop := (f.sundayAlias = true ∧ n = 7) ∨ (f.minimum ≤ n ∧ n ≤ f.maximum)

/-- The value of a number. -/
def value (n : Nat) : Nat := if f.sundayAlias ∧ n = 7 then 0 else n

def first : CronBase → Nat
  | .star => f.minimum
  | .range a _ => a

def last : CronBase → Nat
  | .star => f.maximum
  | .range _ b => b

/-- A number that a base runs through at a step. -/
def Visits (base : CronBase) (step n : Nat) : Prop := ∃ i, n = f.first base + i * step ∧ n ≤ f.last base

/-- An item within the bounds: its ranges go up, its step is between one and the width of the field, and the
field may hold every number. -/
def Legal : CronItem → Prop
  | .number n => f.Admits n
  | .span base step =>
      (∀ a b, base = .range a b → a ≤ b ∧ f.Admits a ∧ f.Admits b) ∧
      (∀ k ∈ step, 1 ≤ k ∧ k ≤ f.maximum + 1 - f.minimum) ∧ ∀ n, f.Visits base (step.getD 1) n → f.Admits n

def Denotes : CronItem → Nat → Prop
  | .number n, v => v = f.value n
  | .span base step, v => ∃ n, f.Visits base (step.getD 1) n ∧ v = f.value n

/-- A field in the grammar, with its items. -/
def InGrammar (expression : String) (items : List CronItem) : Prop :=
  List.Forall₂ (fun item part => item.Text (strip part) ∧ f.Legal item) items (split ',' (strip expression))

end CronField

/-! ## Items and their texts -/

section Texts

variable {base base' : CronBase} {item item' : CronItem} {text text' left right : String} {a b k : Nat}

theorem not_mem_decimal {c : Char} (h : Decimal text k) (hc : c.toNat < 48) : c ∉ text.toList :=
  not_mem_digits h.digits hc

theorem CronBase.Text.no_slash (h : base.Text text) : '/' ∉ text.toList := by
  cases h with
  | star => decide
  | range hl hr =>
    simp only [String.toList_append, List.mem_append, not_or]
    exact ⟨⟨not_mem_decimal hl (by decide), by decide⟩, not_mem_decimal hr (by decide)⟩

theorem baseText_hyphen (hleft : '-' ∉ left.toList) (htext : text.toList = left.toList ++ '-' :: right.toList) :
    base.Text text ↔ ∃ a b, base = .range a b ∧ Decimal left a ∧ Decimal right b := by
  constructor
  · intro h
    cases h with
    | star =>
      have hmem : '-' ∈ "*".toList := by
        rw [htext]
        simp
      exact absurd hmem (by decide)
    | @range l r a b hl hr =>
      have hcut := partition_of_mem (s := l ++ "-" ++ r) (r := r) (not_mem_decimal hl (c := '-') (by decide)) (by simp)
      rw [partition_of_mem hleft htext] at hcut
      cases hcut
      exact ⟨a, b, rfl, hl, hr⟩
  · rintro ⟨a, b, rfl, hl, hr⟩
    have hs : text = left ++ "-" ++ right := by
      apply String.toList_injective
      simp [htext]
    rw [hs]
    exact .range hl hr

theorem baseText_no_hyphen (h : '-' ∉ text.toList) : base.Text text ↔ base = .star ∧ text = "*" := by
  constructor
  · intro hbase
    cases hbase with
    | star => exact ⟨rfl, rfl⟩
    | range hl hr => simp at h
  · rintro ⟨rfl, rfl⟩
    exact .star

theorem itemText_slash (htext : '/' ∉ text.toList) {whole stepText : String}
    (hwhole : whole.toList = text.toList ++ '/' :: stepText.toList) :
    item.Text whole ↔ ∃ base k, item = .span base (some k) ∧ base.Text text ∧ Decimal stepText k := by
  have hmem : '/' ∈ whole.toList := by
    rw [hwhole]
    simp
  constructor
  · intro h
    cases h with
    | number hn => exact absurd hmem (not_mem_decimal hn (by decide))
    | plain hbase => exact absurd hmem hbase.no_slash
    | @stepped t s base k hbase hk =>
      have hcut := partition_of_mem (s := t ++ "/" ++ s) (r := s) hbase.no_slash (by simp)
      rw [partition_of_mem htext hwhole] at hcut
      cases hcut
      exact ⟨base, k, rfl, hbase, hk⟩
  · rintro ⟨base, k, rfl, hbase, hk⟩
    have hs : whole = text ++ "/" ++ stepText := by
      apply String.toList_injective
      simp [hwhole]
    rw [hs]
    exact .stepped hbase hk

theorem itemText_no_slash (htext : '/' ∉ text.toList) : item.Text text ↔
    (∃ n, item = .number n ∧ Decimal text n) ∨ ∃ base, item = .span base none ∧ base.Text text := by
  constructor
  · intro h
    cases h with
    | number hn => exact .inl ⟨_, rfl, hn⟩
    | plain hbase => exact .inr ⟨_, rfl, hbase⟩
    | stepped hbase hk => simp at htext
  · rintro (⟨n, rfl, hn⟩ | ⟨base, rfl, hbase⟩)
    · exact .number hn
    · exact .plain hbase

theorem CronBase.Text.unique (h : base.Text text) (h' : base'.Text text) : base = base' := by
  rcases partition_cases '-' text with ⟨hno, -⟩ | ⟨left, right, hleft, htext, -⟩
  · rw [((baseText_no_hyphen hno).mp h).1, ((baseText_no_hyphen hno).mp h').1]
  · obtain ⟨a, b, rfl, ha, hb⟩ := (baseText_hyphen hleft htext).mp h
    obtain ⟨a', b', rfl, ha', hb'⟩ := (baseText_hyphen hleft htext).mp h'
    rw [ha.unique ha', hb.unique hb']

theorem CronBase.Text.not_decimal (h : base.Text text) (hn : Decimal text k) : False := by
  cases h with
  | star => exact absurd (show '*' ∈ "*".toList by decide) (not_mem_decimal hn (by decide))
  | range hl hr => exact absurd (by simp) (not_mem_decimal (c := '-') hn (by decide))

theorem CronItem.Text.unique (h : item.Text text) (h' : item'.Text text) : item = item' := by
  rcases partition_cases '/' text with ⟨hno, -⟩ | ⟨left, right, hleft, htext, -⟩
  · rcases (itemText_no_slash hno).mp h with ⟨n, rfl, hn⟩ | ⟨base, rfl, hbase⟩ <;>
      rcases (itemText_no_slash hno).mp h' with ⟨n', rfl, hn'⟩ | ⟨base', rfl, hbase'⟩
    · rw [hn.unique hn']
    · exact (hbase'.not_decimal hn).elim
    · exact (hbase.not_decimal hn').elim
    · rw [hbase.unique hbase']
  · obtain ⟨base, k, rfl, hbase, hk⟩ := (itemText_slash hleft htext).mp h
    obtain ⟨base', k', rfl, hbase', hk'⟩ := (itemText_slash hleft htext).mp h'
    rw [hbase.unique hbase', hk.unique hk']

end Texts

/-! ## One item -/

namespace CronField

/-- The part after the base of an item lets its numbers be read: there is none, or it is a step within the field. -/
def StepRead (f : CronField) (slash : Bool) (stepText : String) : Prop :=
  slash = true → ∃ k, Decimal stepText k ∧ ¬ Unreadable stepText ∧ 1 ≤ k ∧ k ≤ f.maximum + 1 - f.minimum

/-- The item makes `int` raise: the first number of it that is not read was let pass by `isdigit`. -/
def Trips (f : CronField) (part : String) : Prop :=
  let (base, slash, stepText) := partition '/' part
  (slash = true ∧ Unreadable stepText) ∨
  (f.StepRead slash stepText ∧ match partition '-' base with
    | (left, true, right) => isDigitText left = true ∧ isDigitText right = true ∧ (Unreadable left ∨ Unreadable right)
    | (_, false, _) => slash = false ∧ Unreadable base)

variable {f : CronField} {part base stepText : String} {slash : Bool}

theorem normalize_cases (f : CronField) (n : Nat) : (f.Admits n ∧ f.normalize n = .ok (f.value n)) ∨
    (¬ f.Admits n ∧ f.normalize n = .error (fail "CRON_FIELD_OUT_OF_RANGE")) := by
  unfold normalize value Admits
  by_cases hseven : f.sundayAlias = true ∧ n = 7
  · rw [if_pos hseven, if_pos hseven]
    exact .inl ⟨.inl hseven, rfl⟩
  · rw [if_neg hseven, if_neg hseven]
    by_cases hrange : f.minimum ≤ n ∧ n ≤ f.maximum
    · left
      refine ⟨.inr hrange, ?_⟩
      rw [require, if_pos hrange]
      rfl
    · right
      refine ⟨fun h => h.elim hseven hrange, ?_⟩
      rw [require, if_neg hrange]
      rfl

end CronField

theorem intOf_cases {text : String} (h : isDigitText text = true) :
    (Unreadable text ∧ ∃ m, intOf text = .error ⟨.valueError, m⟩) ∨
    (¬ Unreadable text ∧ ∃ n, Decimal text n ∧ intOf text = .ok n) := by
  unfold intOf
  rcases int?_digits h with ⟨hbad, hnone⟩ | ⟨hgood, n, hn, hsome⟩
  · rw [hnone]
    exact .inl ⟨hbad, _, rfl⟩
  · rw [hsome]
    exact .inr ⟨hgood, n, hn, rfl⟩

namespace CronField

variable {f : CronField} {part base left right stepText text : String} {slash : Bool} {item : CronItem} {st : Option Nat}

theorem mapM_normalize (ns : List Nat) :
    ((∀ n ∈ ns, f.Admits n) ∧ ns.mapM f.normalize = .ok (ns.map f.value)) ∨
    ((∃ n ∈ ns, ¬ f.Admits n) ∧ ns.mapM f.normalize = .error (fail "CRON_FIELD_OUT_OF_RANGE")) := by
  induction ns with
  | nil => exact .inl ⟨by simp, rfl⟩
  | cons n ns ih =>
    rw [List.mapM_cons]
    rcases normalize_cases f n with ⟨hn, hok⟩ | ⟨hn, herror⟩
    · rw [hok]
      rcases ih with ⟨hall, hns⟩ | ⟨⟨n', hn', hbad⟩, hns⟩
      · refine .inl ⟨by simpa using ⟨hn, hall⟩, ?_⟩
        rw [hns]
        rfl
      · refine .inr ⟨⟨n', List.mem_cons_of_mem _ hn', hbad⟩, ?_⟩
        rw [hns]
        rfl
    · refine .inr ⟨⟨n, List.mem_cons_self .., hn⟩, ?_⟩
      rw [herror]
      rfl

theorem mem_progression {start stop step n : Nat} :
    n ∈ (List.range' start (stop + 1 - start)).filter (fun n => (n - start) % step = 0) ↔
      ∃ i, n = start + i * step ∧ n ≤ stop := by
  rw [List.mem_filter, List.mem_range'_1, decide_eq_true_eq]
  constructor
  · rintro ⟨hn, hmod⟩
    refine ⟨(n - start) / step, ?_, by omega⟩
    rw [Nat.div_mul_cancel (Nat.dvd_of_mod_eq_zero hmod)]
    omega
  · rintro ⟨i, rfl, hle⟩
    refine ⟨by omega, ?_⟩
    rw [Nat.add_sub_cancel_left, Nat.mul_mod_left]

theorem values_cases (f : CronField) (b : CronBase) (k : Nat) :
    ((∀ n, f.Visits b k n → f.Admits n) ∧ ∃ vs, f.values (f.first b) (f.last b) k = .ok vs ∧
      ∀ v, v ∈ vs ↔ ∃ n, f.Visits b k n ∧ v = f.value n) ∨
    ((¬ ∀ n, f.Visits b k n → f.Admits n) ∧
      f.values (f.first b) (f.last b) k = .error (fail "CRON_FIELD_OUT_OF_RANGE")) := by
  unfold values
  rcases mapM_normalize (f := f)
    ((List.range' (f.first b) (f.last b + 1 - f.first b)).filter fun n => (n - f.first b) % k = 0) with
    ⟨hall, hok⟩ | ⟨⟨n, hn, hbad⟩, herror⟩
  · refine .inl ⟨fun n hn => hall n (mem_progression.mpr hn), _, hok, fun v => ?_⟩
    rw [List.mem_map]
    exact ⟨fun ⟨n, hn, hv⟩ => ⟨n, mem_progression.mp hn, hv.symm⟩, fun ⟨n, hn, hv⟩ => ⟨n, mem_progression.mpr hn, hv.symm⟩⟩
  · exact .inr ⟨fun h => hbad (h n (mem_progression.mp hn)), herror⟩

/-- The step that the part after the base writes. -/
def StepOf (f : CronField) (slash : Bool) (stepText : String) : Option Nat → Prop
  | none => slash = false
  | some k => slash = true ∧ Decimal stepText k ∧ ¬ Unreadable stepText ∧ 1 ≤ k ∧ k ≤ f.maximum + 1 - f.minimum

theorem StepOf.read (h : f.StepOf slash stepText st) : f.StepRead slash stepText := by
  intro hslash
  cases st with
  | none => rw [show slash = false from h] at hslash; cases hslash
  | some k => exact ⟨k, h.2⟩

theorem StepOf.legal (h : f.StepOf slash stepText st) : ∀ k ∈ st, 1 ≤ k ∧ k ≤ f.maximum + 1 - f.minimum := by
  intro k hk
  cases hk
  exact h.2.2.2

theorem StepOf.not_unreadable (h : f.StepOf slash stepText st) : ¬ (slash = true ∧ Unreadable stepText) := by
  rintro ⟨hslash, hbad⟩
  obtain ⟨k, -, hgood, -⟩ := h.read hslash
  exact hgood hbad

theorem step_cases (f : CronField) (slash : Bool) (stepText : String) :
    (slash = true ∧ Unreadable stepText ∧ ∃ m, f.step slash stepText = .error ⟨.valueError, m⟩) ∨
    (slash = true ∧ ¬ Unreadable stepText ∧ (∀ k, Decimal stepText k → ¬ (1 ≤ k ∧ k ≤ f.maximum + 1 - f.minimum)) ∧
      f.step slash stepText = .error (fail "CRON_STEP_INVALID")) ∨
    ∃ st : Option Nat, f.StepOf slash stepText st ∧ f.step slash stepText = .ok (st.getD 1) := by
  cases slash with
  | false => exact .inr (.inr ⟨none, rfl, rfl⟩)
  | true =>
    rw [step, if_pos rfl]
    by_cases hdigits : isDigitText stepText = true
    · rw [require, if_pos hdigits]
      rcases intOf_cases hdigits with ⟨hbad, m, herror⟩ | ⟨hgood, k, hk, hok⟩
      · refine .inl ⟨rfl, hbad, m, ?_⟩
        rw [herror]
        rfl
      · rw [hok]
        by_cases hbounds : 1 ≤ k ∧ k ≤ f.maximum + 1 - f.minimum
        · refine .inr (.inr ⟨some k, ⟨rfl, hk, hgood, hbounds⟩, ?_⟩)
          simp only [bind, Except.bind, require, if_pos hbounds.1, if_pos hbounds.2]
          rfl
        · refine .inr (.inl ⟨rfl, hgood, fun k' hk' => by rwa [hk'.unique hk], ?_⟩)
          simp only [bind, Except.bind, require]
          by_cases hlow : 1 ≤ k
          · rw [if_pos hlow, if_neg fun hhigh => hbounds ⟨hlow, hhigh⟩]
          · rw [if_neg hlow]
    · rw [require, if_neg hdigits]
      exact .inr (.inl ⟨rfl, fun h => hdigits h.1, fun k hk => absurd hk.digits hdigits, rfl⟩)

/-! ### What an item comes to -/

/-- What reading an item comes to, by its text. -/
inductive ItemOutcome (f : CronField) (text : String) : Except Raised (List Nat) → Prop
  | accepted {item : CronItem} {vs : List Nat} : item.Text text → f.Legal item → (∀ v, v ∈ vs ↔ f.Denotes item v) →
      ¬ f.Trips text → ItemOutcome f text (.ok vs)
  | refused {code : String} : (∀ item : CronItem, item.Text text → ¬ f.Legal item) → ¬ f.Trips text →
      ItemOutcome f text (.error (fail code))
  | tripped {message : String} : f.Trips text → ItemOutcome f text (.error ⟨.valueError, message⟩)

section
variable (hcut : partition '/' text = (base, slash, stepText))
include hcut

theorem itemText_cut (hst : f.StepOf slash stepText st) :
    item.Text text ↔ (slash = false ∧ ∃ n, item = .number n ∧ Decimal base n) ∨
      ∃ b, item = .span b st ∧ b.Text base := by
  rcases partition_cases '/' text with ⟨hno, hparts⟩ | ⟨b, r, hb, htext, hparts⟩ <;> rw [hparts] at hcut <;> cases hcut
  · cases st with
    | none =>
      rw [itemText_no_slash hno]
      simp
    | some k => cases hst.1
  · cases st with
    | none => cases hst
    | some k =>
      rw [itemText_slash hb htext]
      constructor
      · rintro ⟨b', k', rfl, hb', hk'⟩
        exact .inr ⟨b', by rw [hk'.unique hst.2.1], hb'⟩
      · rintro (⟨hslash, -⟩ | ⟨b', rfl, hb'⟩)
        · cases hslash
        · exact ⟨b', k, rfl, hb', hst.2.1⟩

theorem trips_cut (hst : f.StepOf slash stepText st) :
    f.Trips text ↔ match partition '-' base with
      | (left, true, right) => isDigitText left = true ∧ isDigitText right = true ∧ (Unreadable left ∨ Unreadable right)
      | (_, false, _) => slash = false ∧ Unreadable base := by
  simp only [Trips, hcut]
  exact ⟨fun h => (h.resolve_left hst.not_unreadable).2, fun h => .inr ⟨hst.read, h⟩⟩

end

theorem not_unreadable_of_not_digits (h : isDigitText text = false) : ¬ Unreadable text := by
  intro hbad
  rw [hbad.1] at h
  cases h

section

variable (hcut : partition '/' text = (base, slash, stepText))
include hcut

theorem span_outcome {b : CronBase} {r : Except Raised (List Nat)}
    (hst : f.StepOf slash stepText st) (hb : b.Text base) (htrips : ¬ f.Trips text)
    (hrange : ∀ a c, b = .range a c → a ≤ c ∧ f.Admits a ∧ f.Admits c)
    (hr : r = f.values (f.first b) (f.last b) (st.getD 1)) : ItemOutcome f text r := by
  have htext : (CronItem.span b st).Text text := (itemText_cut hcut hst).mpr (.inr ⟨b, rfl, hb⟩)
  rcases values_cases f b (st.getD 1) with ⟨hall, vs, hok, hvs⟩ | ⟨hbad, herror⟩
  · rw [hr, hok]
    exact .accepted htext ⟨hrange, hst.legal, hall⟩ hvs htrips
  · rw [hr, herror]
    refine .refused (fun item hitem hlegal => hbad ?_) htrips
    rw [hitem.unique htext] at hlegal
    exact hlegal.2.2

theorem range_outcome (hst : f.StepOf slash stepText st)
    (hleft : '-' ∉ left.toList) (hbase : base.toList = left.toList ++ '-' :: right.toList) :
    ItemOutcome f text (do
      require (isDigitText left = true ∧ isDigitText right = true) (fail "CRON_RANGE_INVALID")
      let start ← intOf left
      let stop ← intOf right
      require (start ≤ stop) (fail "CRON_RANGE_INVALID")
      let _ ← f.normalize start
      let _ ← f.normalize stop
      f.values start stop (st.getD 1)) := by
  have htrips : f.Trips text ↔
      isDigitText left = true ∧ isDigitText right = true ∧ (Unreadable left ∨ Unreadable right) := by
    rw [trips_cut hcut hst, partition_of_mem hleft hbase]
  have hitems : ∀ item : CronItem, item.Text text →
      ∃ a b, item = .span (.range a b) st ∧ Decimal left a ∧ Decimal right b := by
    intro item hitem
    rcases (itemText_cut hcut hst).mp hitem with ⟨-, n, -, hn⟩ | ⟨b, rfl, hb⟩
    · exact absurd (by simp [hbase]) (not_mem_decimal (c := '-') hn (by decide))
    · obtain ⟨a, c, rfl, ha, hc⟩ := (baseText_hyphen hleft hbase).mp hb
      exact ⟨a, c, rfl, ha, hc⟩
  by_cases hdigits : isDigitText left = true ∧ isDigitText right = true
  swap
  · rw [require, if_neg hdigits]
    refine .refused (fun item hitem _ => ?_) fun h => hdigits ⟨(htrips.mp h).1, (htrips.mp h).2.1⟩
    obtain ⟨a, b, -, ha, hb⟩ := hitems item hitem
    exact hdigits ⟨ha.digits, hb.digits⟩
  rw [require, if_pos hdigits]
  rcases intOf_cases hdigits.1 with ⟨hbad, m, herror⟩ | ⟨hgood, a, ha, hok⟩
  · simp only [herror, bind, Except.bind]
    exact .tripped (htrips.mpr ⟨hdigits.1, hdigits.2, .inl hbad⟩)
  rcases intOf_cases hdigits.2 with ⟨hbad', m, herror⟩ | ⟨hgood', b, hb, hok'⟩
  · simp only [hok, herror, bind, Except.bind]
    exact .tripped (htrips.mpr ⟨hdigits.1, hdigits.2, .inr hbad'⟩)
  have hfree : ¬ f.Trips text := fun h => (htrips.mp h).2.2.elim hgood hgood'
  have hrefused : ¬ (a ≤ b ∧ f.Admits a ∧ f.Admits b) → ∀ item : CronItem, item.Text text → ¬ f.Legal item := by
    intro hbad item hitem hlegal
    obtain ⟨a', b', rfl, ha', hb'⟩ := hitems item hitem
    rw [ha'.unique ha, hb'.unique hb] at hlegal
    exact hbad (hlegal.1 a b rfl)
  simp only [hok, hok', bind, Except.bind]
  by_cases hle : a ≤ b
  swap
  · rw [require, if_neg hle]
    exact .refused (hrefused fun h => hle h.1) hfree
  rw [require, if_pos hle]
  rcases normalize_cases f a with ⟨hadmits, hna⟩ | ⟨hbad, hna⟩
  swap
  · simp only [hna]
    exact .refused (hrefused fun h => hbad h.2.1) hfree
  rcases normalize_cases f b with ⟨hadmits', hnb⟩ | ⟨hbad, hnb⟩
  swap
  · simp only [hna, hnb]
    exact .refused (hrefused fun h => hbad h.2.2) hfree
  simp only [hna, hnb]
  refine span_outcome hcut hst ((baseText_hyphen hleft hbase).mpr ⟨a, b, rfl, ha, hb⟩) hfree ?_ rfl
  intro a' b' hrange
  cases hrange
  exact ⟨hle, hadmits, hadmits'⟩

theorem number_outcome (hst : f.StepOf slash stepText st)
    (hstar : base ≠ "*") (hbase : '-' ∉ base.toList) :
    ItemOutcome f text (do
      require (slash = false ∧ isDigitText base = true) (fail "CRON_FIELD_INVALID")
      let n ← intOf base
      let v ← f.normalize n
      return [v]) := by
  have htrips : f.Trips text ↔ slash = false ∧ Unreadable base := by
    rw [trips_cut hcut hst, partition_of_not_mem hbase]
  have hitems : ∀ item : CronItem, item.Text text → slash = false ∧ ∃ n, item = .number n ∧ Decimal base n := by
    intro item hitem
    rcases (itemText_cut hcut hst).mp hitem with h | ⟨b, rfl, hb⟩
    · exact h
    · exact absurd ((baseText_no_hyphen hbase).mp hb).2 hstar
  by_cases hdigits : slash = false ∧ isDigitText base = true
  swap
  · rw [require, if_neg hdigits]
    refine .refused (fun item hitem _ => ?_) fun h => hdigits ⟨(htrips.mp h).1, (htrips.mp h).2.1⟩
    obtain ⟨hslash, n, -, hn⟩ := hitems item hitem
    exact hdigits ⟨hslash, hn.digits⟩
  rw [require, if_pos hdigits]
  rcases intOf_cases hdigits.2 with ⟨hbad, m, herror⟩ | ⟨hgood, n, hn, hok⟩
  · simp only [herror, bind, Except.bind]
    exact .tripped (htrips.mpr ⟨hdigits.1, hbad⟩)
  have hfree : ¬ f.Trips text := fun h => hgood (htrips.mp h).2
  rcases normalize_cases f n with ⟨hadmits, hnorm⟩ | ⟨hbad, hnorm⟩
  · simp only [hok, hnorm, bind, Except.bind, pure, Except.pure]
    refine .accepted ((itemText_cut hcut hst).mpr (.inl ⟨hdigits.1, n, rfl, hn⟩)) hadmits (fun v => ?_) hfree
    exact List.mem_singleton
  · simp only [hok, hnorm, bind, Except.bind]
    refine .refused (fun item hitem hlegal => ?_) hfree
    obtain ⟨-, n', rfl, hn'⟩ := hitems item hitem
    rw [hn'.unique hn] at hlegal
    exact hbad hlegal

end

theorem not_item_empty {item : CronItem} : ¬ item.Text "" := by
  intro h
  rcases (itemText_no_slash (by decide)).mp h with ⟨n, -, hn⟩ | ⟨b, -, hb⟩
  · exact hn.1 rfl
  · exact absurd ((baseText_no_hyphen (by decide)).mp hb).2 (by decide)

theorem not_trips_empty : ¬ f.Trips "" := by
  have hbad : ¬ Unreadable "" := not_unreadable_of_not_digits (by decide)
  rw [Trips, partition_of_not_mem (by decide)]
  simp only [partition_of_not_mem (show '-' ∉ "".toList by decide)]
  rintro (⟨-, h⟩ | ⟨-, -, h⟩) <;> exact hbad h

theorem contains_char {c : Char} : contains base (String.ofList [c]) = true ↔ c ∈ base.toList := by
  rw [contains_iff, String.toList_ofList, List.singleton_infix_iff]

/-- **What one item comes to.** -/
theorem item_outcome (f : CronField) (part : String) : ItemOutcome f (strip part) (f.item part) := by
  unfold CronField.item
  by_cases hne : strip part ≠ ""
  swap
  · rw [Decidable.not_not] at hne
    simp only [hne, require, ne_eq, not_true_eq_false, if_false, bind, Except.bind]
    exact .refused (fun item hitem => absurd hitem not_item_empty) not_trips_empty
  obtain ⟨base, slash, stepText, hcut⟩ : ∃ b s t, partition '/' (strip part) = (b, s, t) := ⟨_, _, _, rfl⟩
  simp only [require, if_pos hne, hcut, bind, Except.bind, pure, Except.pure]
  rcases step_cases f slash stepText with ⟨hslash, hbad, m, herror⟩ | ⟨hslash, hgood, hbounds, herror⟩ | ⟨st, hst, hok⟩
  · rw [herror]
    refine .tripped ?_
    rw [Trips, hcut]
    exact .inl ⟨hslash, hbad⟩
  · rw [herror]
    have hread : ¬ f.StepRead slash stepText := fun h => by
      obtain ⟨k, hk, -, hle⟩ := h hslash
      exact hbounds k hk hle
    refine .refused (fun item hitem hlegal => ?_) ?_
    · subst hslash
      rcases partition_cases '/' (strip part) with ⟨hno, hparts⟩ | ⟨b, r, hb, htext, hparts⟩ <;>
        rw [hparts] at hcut <;> cases hcut
      obtain ⟨base', k, rfl, -, hk⟩ := (itemText_slash hb htext).mp hitem
      exact hbounds k hk (hlegal.2.1 k rfl)
    · rw [Trips, hcut]
      rintro (⟨-, hbad⟩ | ⟨h, -⟩)
      · exact hgood hbad
      · exact hread h
  · simp only [hok]
    by_cases hstar : base = "*"
    · rw [if_pos hstar]
      subst hstar
      have hfree : ¬ f.Trips (strip part) := by
        rw [trips_cut hcut hst, partition_of_not_mem (show '-' ∉ "*".toList by decide)]
        exact fun h => not_unreadable_of_not_digits (by decide) h.2
      exact span_outcome (b := .star) hcut hst .star hfree (by rintro a c ⟨⟩) rfl
    rw [if_neg hstar]
    rcases partition_cases '-' base with ⟨hno, -⟩ | ⟨left, right, hleft, hbase, hparts⟩
    · rw [if_neg (fun h => hno (contains_char.mp h))]
      exact number_outcome hcut hst hstar hno
    · rw [if_pos (contains_char.mpr (by simp [hbase]))]
      simp only [hparts]
      exact range_outcome hcut hst hleft hbase

/-! ## A whole field -/

variable {expression : String} {parts : List String}

theorem items_outcome (f : CronField) (parts : List String) :
    (∃ items vss, parts.mapM f.item = .ok vss ∧
      List.Forall₂ (fun item part => CronItem.Text item (strip part) ∧ f.Legal item) items parts ∧
      (∀ v, v ∈ vss.flatten ↔ ∃ item ∈ items, f.Denotes item v) ∧ ∀ part ∈ parts, ¬ f.Trips (strip part)) ∨
    ∃ pre part post e, parts = pre ++ part :: post ∧ parts.mapM f.item = .error e ∧
      (∀ p ∈ pre, ¬ f.Trips (strip p) ∧ ∃ item : CronItem, item.Text (strip p) ∧ f.Legal item) ∧
      ItemOutcome f (strip part) (.error e) := by
  induction parts with
  | nil => exact .inl ⟨[], [], rfl, .nil, by simp, by simp⟩
  | cons part parts ih =>
    have hitem := item_outcome f part
    rw [List.mapM_cons]
    cases hr : f.item part with
    | error e =>
      rw [hr] at hitem
      exact .inr ⟨[], part, parts, e, rfl, rfl, by simp, hitem⟩
    | ok vs =>
      rw [hr] at hitem
      cases hitem with
      | accepted htext hlegal hvs hfree =>
      rename_i item
      rcases ih with ⟨items, vss, hok, hitems, hdenotes, hall⟩ | ⟨pre, p, post, e, rfl, herror, hpre, hp⟩
      · refine .inl ⟨item :: items, vs :: vss, ?_, .cons ⟨htext, hlegal⟩ hitems, fun v => ?_, ?_⟩
        · rw [hok]
          rfl
        · rw [List.flatten_cons, List.mem_append, hvs, hdenotes]
          simp
        · intro p hp
          rcases List.mem_cons.mp hp with rfl | hp
          · exact hfree
          · exact hall p hp
      · refine .inr ⟨part :: pre, p, post, e, rfl, ?_, ?_, hp⟩
        · rw [herror]
          rfl
        · intro p' hp'
          rcases List.mem_cons.mp hp' with rfl | hp'
          · exact ⟨hfree, item, htext, hlegal⟩
          · exact hpre p' hp'

theorem InGrammar.unique {items items' : List CronItem} (h : f.InGrammar expression items)
    (h' : f.InGrammar expression items') : items = items' := by
  unfold InGrammar at h h'
  generalize split ',' (strip expression) = parts at h h'
  induction h generalizing items' with
  | nil =>
    cases h'
    rfl
  | cons hitem _ ih =>
    cases h' with
    | cons hitem' hitems' => rw [hitem.1.unique hitem'.1, ih hitems']

/-- The field is parsed to what the grammar says: the values of its items, some and all within the bounds, or a
`PersistentSchedulerError` where it has none. -/
def ParsesExactly (f : CronField) (expression : String) : Prop :=
  (∃ items vs, f.InGrammar expression items ∧ parseCronField f expression = .ok vs ∧
    (∀ v, v ∈ vs ↔ ∃ item ∈ items, f.Denotes item v) ∧ vs ≠ [] ∧ ∀ v ∈ vs, f.minimum ≤ v ∧ v ≤ f.maximum) ∨
  ((∀ items, ¬ f.InGrammar expression items) ∧
    ∃ e, parseCronField f expression = .error e ∧ e.cls = .persistentSchedulerError)

/-- No item that comes after legal ones only makes `int` raise. -/
def NeverTrips (f : CronField) (expression : String) : Prop :=
  ∀ pre part post, split ',' (strip expression) = pre ++ part :: post →
    (∀ p ∈ pre, ∃ item : CronItem, item.Text (strip p) ∧ f.Legal item) → ¬ f.Trips (strip part)

/-- What a legal field stands for lies within the bounds. -/
def Inside (f : CronField) (expression : String) : Prop :=
  ∀ items, f.InGrammar expression items → (∃ v, ∃ item ∈ items, f.Denotes item v) ∧
    ∀ v, (∃ item ∈ items, f.Denotes item v) → f.minimum ≤ v ∧ v ≤ f.maximum

theorem value_inside (hsunday : f.sundayAlias = true → f.minimum = 0) {n : Nat} (h : f.Admits n) :
    f.minimum ≤ f.value n ∧ f.value n ≤ f.maximum := by
  unfold value
  by_cases hseven : f.sundayAlias = true ∧ n = 7
  · rw [if_pos hseven, hsunday hseven.1]
    exact ⟨le_refl 0, Nat.zero_le _⟩
  · rw [if_neg hseven]
    exact h.resolve_left hseven

theorem inside_of_bounds (hbounds : f.minimum ≤ f.maximum) (hsunday : f.sundayAlias = true → f.minimum = 0) :
    f.Inside expression := by
  have hdenotes : ∀ item : CronItem, f.Legal item →
      (∃ v, f.Denotes item v) ∧ ∀ v, f.Denotes item v → f.minimum ≤ v ∧ v ≤ f.maximum := by
    intro item hlegal
    cases item with
    | number n =>
      refine ⟨⟨_, rfl⟩, fun v hv => ?_⟩
      rw [show v = f.value n from hv]
      exact value_inside hsunday hlegal
    | span base step =>
      have hle : f.first base ≤ f.last base := by
        cases base with
        | star => exact hbounds
        | range a b => exact (hlegal.1 a b rfl).1
      refine ⟨⟨_, f.first base, ⟨0, by simp, hle⟩, rfl⟩, fun v hv => ?_⟩
      obtain ⟨n, hn, rfl⟩ := hv
      exact value_inside hsunday (hlegal.2.2 n hn)
  intro items hitems
  have hlegal : ∀ item ∈ items, f.Legal item := by
    intro item hitem
    obtain ⟨part, -, hpart⟩ := forall₂_mem_left hitems hitem
    exact hpart.2
  constructor
  · unfold InGrammar at hitems
    cases items with
    | nil =>
      have hsplit := List.forall₂_nil_left_iff.mp hitems
      rw [split, List.map_eq_nil_iff] at hsplit
      exact absurd hsplit (List.splitOn_ne_nil _ _)
    | cons item items =>
      obtain ⟨v, hv⟩ := (hdenotes item (hlegal item (by simp))).1
      exact ⟨v, item, by simp, hv⟩
  · rintro v ⟨item, hitem, hv⟩
    exact (hdenotes item (hlegal item hitem)).2 v hv

/-- **When a cron field is parsed to what it stands for**: when `int` reads every number that the parser comes to. -/
theorem parsesExactly_iff (f : CronField) (expression : String) :
    (f.ParsesExactly expression ↔ f.NeverTrips expression ∧ f.Inside expression) ∧
    (f.minimum ≤ f.maximum → (f.sundayAlias = true → f.minimum = 0) → f.Inside expression) := by
  refine ⟨?_, inside_of_bounds⟩
  by_cases hempty : strip expression = ""
  · have herror : parseCronField f expression = .error (fail "CRON_FIELD_EMPTY") := by
      simp only [parseCronField, hempty, require, ne_eq, not_true_eq_false, if_false, bind, Except.bind]
    have hparts : split ',' (strip expression) = [""] := by
      rw [hempty]
      decide
    have hnone : ∀ items, ¬ f.InGrammar expression items := by
      intro items hitems
      rw [InGrammar, hparts] at hitems
      cases hitems with
      | cons hitem _ => exact not_item_empty hitem.1
    refine ⟨fun _ => ⟨?_, fun items hitems => absurd hitems (hnone items)⟩, fun _ => .inr ⟨hnone, _, herror, rfl⟩⟩
    intro pre part post hsplit _
    rw [hparts] at hsplit
    obtain ⟨-, rfl⟩ : pre = [] ∧ part = "" := by
      cases pre with
      | nil => exact ⟨rfl, by simpa using (List.cons.inj hsplit).1.symm⟩
      | cons p pre => simp at hsplit
    exact not_trips_empty
  have hparse : parseCronField f expression = (do
      let items ← (split ',' (strip expression)).mapM f.item
      require (items.flatten ≠ []) (fail "CRON_FIELD_EMPTY")
      return items.flatten) := by
    simp only [parseCronField, require, ne_eq, hempty, not_false_eq_true, if_true, bind, Except.bind, pure, Except.pure]
  rcases items_outcome f (split ',' (strip expression)) with
    ⟨items, vss, hok, hitems, hdenotes, hfree⟩ | ⟨pre, part, post, e, hsplit, herror, hpre, hpart⟩
  · have hnever : f.NeverTrips expression := by
      intro pre part post hsplit _
      exact hfree part (by simp [hsplit])
    rw [and_iff_right hnever]
    rw [hok] at hparse
    constructor
    · intro h
      rcases h with ⟨items', vs, hitems', -, hvs, hne, hbounds⟩ | ⟨hnone, -⟩
      · intro items'' hitems''
        rw [InGrammar.unique hitems'' hitems']
        refine ⟨?_, fun v hv => hbounds v ((hvs v).mpr hv)⟩
        obtain ⟨v, hv⟩ := List.exists_mem_of_ne_nil vs hne
        exact ⟨v, (hvs v).mp hv⟩
      · exact absurd hitems (hnone items)
    · intro hinside
      obtain ⟨⟨v, hv⟩, hbounds⟩ := hinside items hitems
      have hne : vss.flatten ≠ [] := List.ne_nil_of_mem ((hdenotes v).mpr hv)
      refine .inl ⟨items, vss.flatten, hitems, ?_, hdenotes, hne, fun v hv => hbounds v ((hdenotes v).mp hv)⟩
      rw [hparse]
      simp only [bind, Except.bind, require, if_pos hne, pure, Except.pure]
  · have hparse' : parseCronField f expression = .error e := by
      rw [hparse, herror]
      rfl
    cases hpart with
    | refused hnone hfree =>
      have hout : ∀ items, ¬ f.InGrammar expression items := by
        intro items hitems
        obtain ⟨item, -, hitem⟩ := forall₂_mem_right hitems (show part ∈ split ',' (strip expression) by simp [hsplit])
        exact hnone item hitem.1 hitem.2
      refine ⟨fun _ => ⟨?_, fun items hitems => absurd hitems (hout items)⟩, fun _ => .inr ⟨hout, _, hparse', rfl⟩⟩
      intro pre' part' post' hsplit' hpre'
      rw [hsplit] at hsplit'
      rcases List.append_eq_append_iff.mp hsplit' with ⟨l, rfl, hl⟩ | ⟨l, rfl, hl⟩
      · cases l with
        | nil =>
          cases hl
          exact hfree
        | cons p l =>
          cases hl
          obtain ⟨item, hitem, hlegal⟩ := hpre' part (by simp)
          exact absurd hlegal (hnone item hitem)
      · cases l with
        | nil =>
          cases hl
          exact hfree
        | cons p l =>
          cases hl
          exact (hpre part' (by simp)).1
    | tripped htrips =>
      constructor
      · rintro (⟨items, vs, -, hvs, -⟩ | ⟨-, e, he, hcls⟩)
        · rw [hparse'] at hvs
          cases hvs
        · rw [hparse'] at he
          cases he
          cases hcls
      · rintro ⟨hnever, -⟩
        exact absurd htrips (hnever pre part post hsplit fun p hp => (hpre p hp).2)

/-- A superscript two passes `isdigit`, and `int` raises. -/
theorem superscript_not_parsed : ¬ ∀ (f : CronField) (expression : String), f.ParsesExactly expression := by
  intro h
  have hparse : parseCronField ⟨0, 59, false⟩ "²" =
      .error ⟨.valueError, "invalid literal for int() with base 10: '²'"⟩ := by
    decide
  rcases h ⟨0, 59, false⟩ "²" with ⟨_, _, -, hvs, -⟩ | ⟨-, e, he, hcls⟩
  · rw [hparse] at hvs
    cases hvs
  · rw [hparse] at he
    cases he
    cases hcls

end CronField

end ThreeAgent.PersistentScheduler
