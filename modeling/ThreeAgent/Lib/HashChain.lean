/-
A log whose entries name the hash of the entry before them. `follow` walks
the log with the check of one entry, which returns the hash the next entry
must name, nothing for an entry that does not fit, or raises.

`follow_snoc`: an entry that fits the last hash extends a log that holds.
`keys_eq`: two logs that hold and end in the same hash have the same entries,
as far as the hashes are over them, when no two hashes collide.
-/
import Mathlib.Data.List.Induction
import Mathlib.Data.Set.Function
import ThreeAgent.Lib.Outcome

namespace HashChain

open Outcome

variable {ε ι η : Type}

/-- Whether every entry passes its check. -/
def follow (check : η → ι → Except ε (Option η)) : η → List ι → Except ε Bool
  | _, [] => return true
  | h, e :: es => do
    let next ← check h e
    match next with
    | none => return false
    | some h' => follow check h' es

/-- The hash a new entry must name: that of the last entry, or the first hash of all. -/
def lastHash (hash : ι → η) (zero : η) (es : List ι) : η :=
  match es.getLast? with
  | none => zero
  | some e => hash e

theorem follow_cons {check : η → ι → Except ε (Option η)} {h : η} {e : ι} {es : List ι} :
    follow check h (e :: es) = .ok true ↔ ∃ h', check h e = .ok (some h') ∧ follow check h' es = .ok true := by
  simp only [follow, bind_ok]
  constructor
  · rintro ⟨next, hnext, hes⟩
    cases next with
    | none => cases hes
    | some h' => exact ⟨h', hnext, hes⟩
  · rintro ⟨h', hnext, hes⟩
    exact ⟨some h', hnext, hes⟩

section Hashes

variable {check : η → ι → Except ε (Option η)} {hash : ι → η}

theorem lastHash_cons (zero : η) (e : ι) (es : List ι) :
    lastHash hash zero (e :: es) = lastHash hash (hash e) es := by
  cases es using List.reverseRecOn with
  | nil => rfl
  | append_singleton es e' =>
    rw [← List.cons_append, lastHash, lastHash, List.getLast?_concat, List.getLast?_concat]

theorem lastHash_snoc (zero : η) (e : ι) (es : List ι) : lastHash hash zero (es ++ [e]) = hash e := by
  rw [lastHash, List.getLast?_concat]

/-- A log holds with one more entry when it held and the entry passes its check against the last hash. -/
theorem follow_snoc (hcheck : ∀ h e h', check h e = .ok (some h') → h' = hash e) {e : ι} :
    ∀ {es : List ι} {zero : η}, follow check zero (es ++ [e]) = .ok true ↔
      follow check zero es = .ok true ∧ ∃ h', check (lastHash hash zero es) e = .ok (some h')
  | [], zero => by
    rw [List.nil_append, follow_cons]
    constructor
    · rintro ⟨h', he, -⟩
      exact ⟨rfl, h', he⟩
    · rintro ⟨-, h', he⟩
      exact ⟨h', he, rfl⟩
  | e₀ :: es, zero => by
    rw [List.cons_append, follow_cons, follow_cons, lastHash_cons]
    constructor
    · rintro ⟨h₁, hc, hf⟩
      obtain ⟨hes, he⟩ := (follow_snoc hcheck).mp hf
      rw [← hcheck _ _ _ hc]
      exact ⟨⟨h₁, hc, hes⟩, he⟩
    · rintro ⟨⟨h₁, hc, hes⟩, he⟩
      rw [← hcheck _ _ _ hc] at he
      exact ⟨h₁, hc, (follow_snoc hcheck).mpr ⟨hes, he⟩⟩

/-- Two logs that hold and end in the same hash have the same keys: the hash of an entry is `link` of
its key, which tells the hash before it, and `link none` stands before the first entry. -/
theorem keys_eq {κ : Type} (before : κ → η) {key : ι → κ} {link : Option κ → η}
    (hcheck : ∀ h e h', check h e = .ok (some h') → h' = hash e)
    (hlink : ∀ h e h', check h e = .ok (some h') → before (key e) = h ∧ hash e = link (some (key e)))
    {ks : Set (Option κ)} (hinj : Set.InjOn link ks) (hnone : none ∈ ks) :
    ∀ {es es' : List ι}, (∀ e ∈ es, some (key e) ∈ ks) → (∀ e ∈ es', some (key e) ∈ ks) →
      follow check (link none) es = .ok true → follow check (link none) es' = .ok true →
      lastHash hash (link none) es = lastHash hash (link none) es' → es.map key = es'.map key := by
  intro es
  induction es using List.reverseRecOn with
  | nil =>
    intro es' _ hmem' _ hf' hlast
    cases es' using List.reverseRecOn with
    | nil => rfl
    | append_singleton es' e' =>
      -- the last entry of the longer log would hash to what stands before the first
      obtain ⟨-, h', he'⟩ := (follow_snoc hcheck).mp hf'
      rw [lastHash_snoc, (hlink _ _ _ he').2] at hlast
      exact absurd (hinj hnone (hmem' e' (by simp)) hlast) (by simp)
  | append_singleton es e ih =>
    intro es' hmem hmem' hf hf' hlast
    obtain ⟨hes, h, he⟩ := (follow_snoc hcheck).mp hf
    cases es' using List.reverseRecOn with
    | nil =>
      rw [lastHash_snoc, (hlink _ _ _ he).2] at hlast
      exact absurd (hinj (hmem e (by simp)) hnone hlast) (by simp)
    | append_singleton es' e' =>
      obtain ⟨hes', h', he'⟩ := (follow_snoc hcheck).mp hf'
      rw [lastHash_snoc, lastHash_snoc, (hlink _ _ _ he).2, (hlink _ _ _ he').2] at hlast
      have hkey : key e = key e' := Option.some.inj (hinj (hmem e (by simp)) (hmem' e' (by simp)) hlast)
      have hprev : lastHash hash (link none) es = lastHash hash (link none) es' := by
        rw [← (hlink _ _ _ he).1, ← (hlink _ _ _ he').1, hkey]
      have hrest := ih (fun a ha => hmem a (by simp [ha])) (fun a ha => hmem' a (by simp [ha])) hes hes' hprev
      rw [List.map_append, List.map_append, hrest, List.map_singleton, List.map_singleton, hkey]

end Hashes

end HashChain
