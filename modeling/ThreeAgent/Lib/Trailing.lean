/-
The trailing run of a list: how many of its last elements satisfy a predicate.
For a list sorted by a key, the length of that run does not depend on how the
sort met its ties just where no tie that the run reaches is mixed.
-/
import ThreeAgent.Lib.Keyed

namespace Keyed

variable {α κ : Type*}

/-- The number of the last elements that satisfy a predicate, up to the first that does not. -/
def trailing (p : α → Bool) (xs : List α) : Nat := (xs.reverse.takeWhile p).length

/-- The last `n` elements all satisfy a predicate. -/
def LastAll (p : α → Bool) (n : Nat) (xs : List α) : Prop := n ≤ xs.length ∧ ∀ x ∈ xs.drop (xs.length - n), p x = true

variable {p : α → Bool}

theorem trailing_append_of_all (xs : List α) {ys : List α} (h : ∀ y ∈ ys, p y = true) :
    trailing p (xs ++ ys) = ys.length + trailing p xs := by
  rw [trailing, List.reverse_append, List.takeWhile_append_of_pos fun y hy => h y (List.mem_reverse.mp hy), List.length_append,
    List.length_reverse, trailing]

theorem trailing_concat_neg (xs : List α) {x : α} (h : p x = false) : trailing p (xs ++ [x]) = 0 := by
  rw [trailing, List.reverse_append]
  simp [h]

theorem trailing_concat_pos (xs : List α) {x : α} (h : p x = true) : trailing p (xs ++ [x]) = trailing p xs + 1 := by
  rw [trailing_append_of_all xs (by simpa using h), List.length_singleton, Nat.add_comm]

theorem le_trailing {n : Nat} {xs : List α} : n ≤ trailing p xs ↔ LastAll p n xs := by
  induction xs using List.reverseRecOn generalizing n with
  | nil => simp [trailing, LastAll]
  | append_singleton xs x ih =>
    cases n with
    | zero => simp [LastAll]
    | succ n =>
      have hdrop : LastAll p (n + 1) (xs ++ [x]) ↔ LastAll p n xs ∧ p x = true := by
        have hlen : (xs ++ [x]).length - (n + 1) = xs.length - n := by simp
        rw [LastAll, LastAll, hlen, List.drop_append_of_le_length (Nat.sub_le _ _), List.forall_mem_append, List.length_append,
          List.length_singleton, Nat.add_le_add_iff_right, List.forall_mem_singleton, and_assoc]
      rw [hdrop]
      cases hx : p x with
      | false => simp [trailing_concat_neg xs hx]
      | true =>
        rw [trailing_concat_pos xs hx, Nat.add_le_add_iff_right, ih]
        simp

section Sorted

variable [LinearOrder κ] {key : α → κ} {xs xs' : List α} {p : α → Bool}

theorem filter_sortedBy_eq (k : κ) : (sortedBy key xs).filter (fun x => key x = k) = xs.filter fun x => key x = k := by
  have hpair : (xs.filter fun x => key x = k).Pairwise fun a b => key a ≤ key b := by
    refine List.pairwise_of_forall_mem_list ?_
    intro a ha b hb
    have ha := (List.mem_filter.mp ha).2
    have hb := (List.mem_filter.mp hb).2
    rw [of_decide_eq_true ha, of_decide_eq_true hb]
  have hsub := (List.sublist_insertionSort hpair List.filter_sublist).filter fun x => key x = k
  rw [List.filter_filter] at hsub
  simp only [Bool.and_self] at hsub
  exact (hsub.eq_of_length ((sortedBy_perm.filter _).length_eq).symm).symm

theorem sortedBy_split (k : κ) : sortedBy key xs =
    (sortedBy key xs).filter (fun x => key x < k) ++
    (xs.filter (fun x => key x = k) ++ (sortedBy key xs).filter fun x => k < key x) := by
  rw [← filter_sortedBy_eq]
  have hsorted : (sortedBy key xs).Pairwise fun a b => key a ≤ key b := sortedBy_pairwise
  generalize sortedBy key xs = ys at hsorted
  induction ys with
  | nil => rfl
  | cons y ys ih =>
    obtain ⟨hy, hys⟩ := List.pairwise_cons.mp hsorted
    have hrest := ih hys
    rcases lt_trichotomy (key y) k with hlt | heq | hgt
    · have hne : ¬ key y = k := ne_of_lt hlt
      have hngt : ¬ k < key y := not_lt_of_gt hlt
      rw [List.filter_cons_of_pos (by simpa using hlt), List.filter_cons_of_neg (by simpa using hne),
        List.filter_cons_of_neg (by simpa using hngt), List.cons_append]
      exact congrArg _ hrest
    · have hnone : ys.filter (fun x => key x < k) = [] := by
        refine List.filter_eq_nil_iff.mpr fun x hx => ?_
        have := hy x hx
        simpa using heq ▸ this
      rw [hnone, List.nil_append] at hrest
      rw [List.filter_cons_of_neg (by simp [heq]), List.filter_cons_of_pos (by simpa using heq),
        List.filter_cons_of_neg (by simp [heq]), hnone, List.nil_append, List.cons_append]
      exact congrArg _ hrest
    · have hnone : ∀ x ∈ ys, ¬ key x < k ∧ ¬ key x = k := by
        intro x hx
        have hlt := lt_of_lt_of_le hgt (hy x hx)
        exact ⟨not_lt_of_gt hlt, ne_of_gt hlt⟩
      have hlow : ys.filter (fun x => key x < k) = [] :=
        List.filter_eq_nil_iff.mpr fun x hx => by simpa using (hnone x hx).1
      have hmid : ys.filter (fun x => key x = k) = [] :=
        List.filter_eq_nil_iff.mpr fun x hx => by simpa using (hnone x hx).2
      rw [hlow, hmid, List.nil_append, List.nil_append] at hrest
      rw [List.filter_cons_of_neg (by simpa using le_of_lt hgt), List.filter_cons_of_neg (by simpa using ne_of_gt hgt),
        List.filter_cons_of_pos (by simpa using hgt), hlow, hmid, List.nil_append, List.nil_append]
      exact congrArg _ hrest

/-- No tie that the trailing run reaches is mixed. -/
def Even (key : α → κ) (p : α → Bool) (xs : List α) : Prop :=
  ∀ a ∈ xs, ∀ b ∈ xs, key a = key b → (∀ c ∈ xs, key a < key c → p c = true) → p a = p b

theorem Even.perm (hperm : xs'.Perm xs) (h : Even key p xs) : Even key p xs' := by
  intro a ha b hb hkey hlater
  exact h a (hperm.mem_iff.mp ha) b (hperm.mem_iff.mp hb) hkey fun c hc => hlater c (hperm.mem_iff.mpr hc)

theorem trailing_sortedBy_of_even (h : Even key p xs) :
    trailing p (sortedBy key xs) = xs.countP fun x => decide (∀ c ∈ xs, key x ≤ key c → p c = true) := by
  have hmem : ∀ x, x ∈ (sortedBy key xs).reverse ↔ x ∈ xs := fun x => List.mem_reverse.trans mem_sortedBy
  have hsorted : ((sortedBy key xs).reverse).Pairwise fun a b => key b ≤ key a := List.pairwise_reverse.mpr sortedBy_pairwise
  rw [← (@sortedBy_perm _ _ _ key xs).countP_eq, ← (List.reverse_perm _).countP_eq, trailing]
  generalize (sortedBy key xs).reverse = ys at hmem hsorted
  have hsplit := List.takeWhile_append_dropWhile (p := p) (l := ys)
  have hafter : ∀ a ∈ ys.takeWhile p, ∀ b ∈ ys.dropWhile p, key b ≤ key a := by
    rw [← hsplit] at hsorted
    exact (List.pairwise_append.mp hsorted).2.2
  have hcase : ∀ c ∈ xs, c ∈ ys.takeWhile p ∨ c ∈ ys.dropWhile p := by
    intro c hc
    rw [← List.mem_append, hsplit]
    exact (hmem c).mpr hc
  have htake : ∀ x ∈ ys.takeWhile p, decide (∀ c ∈ xs, key x ≤ key c → p c = true) = true := by
    intro x hx
    rw [decide_eq_true_eq]
    intro c hc hle
    rcases hcase c hc with htaken | hdropped
    · exact List.all_eq_true.mp List.all_takeWhile c htaken
    · have hkey : key x = key c := le_antisymm hle (hafter x hx c hdropped)
      have hxs : x ∈ xs := (hmem x).mp ((List.takeWhile_prefix p).subset hx)
      rw [← h x hxs c hc hkey fun c' hc' hlt => ?_]
      · exact List.all_eq_true.mp List.all_takeWhile x hx
      · rcases hcase c' hc' with htaken | hdropped'
        · exact List.all_eq_true.mp List.all_takeWhile c' htaken
        · exact absurd (hafter x hx c' hdropped') (not_le_of_gt hlt)
  have hdrop : ∀ x ∈ ys.dropWhile p, ¬ decide (∀ c ∈ xs, key x ≤ key c → p c = true) = true := by
    intro x hx hall
    rw [decide_eq_true_eq] at hall
    match hds : ys.dropWhile p, hx with
    | d :: ds, hx =>
      have hd : p d = false := by
        have := List.head_dropWhile_not (p := p) (l := ys) (by rw [hds]; exact List.cons_ne_nil _ _)
        simpa [hds] using this
      have hle : key x ≤ key d := by
        rcases List.mem_cons.mp hx with rfl | hx
        · exact le_refl _
        · have hpart := hsorted.sublist (List.dropWhile_sublist p)
          rw [hds] at hpart
          exact (List.pairwise_cons.mp hpart).1 x hx
      have hdxs : d ∈ xs := (hmem d).mp ((List.dropWhile_sublist p).subset (by rw [hds]; exact List.mem_cons_self))
      rw [hall d hdxs hle] at hd
      cases hd
  conv_rhs => rw [← hsplit]
  rw [List.countP_append, List.countP_eq_length.mpr htake, List.countP_eq_zero.mpr hdrop, Nat.add_zero]

theorem trailing_sortedBy_perm (hperm : xs'.Perm xs) (h : Even key p xs) :
    trailing p (sortedBy key xs') = trailing p (sortedBy key xs) := by
  rw [trailing_sortedBy_of_even h, trailing_sortedBy_of_even (h.perm hperm), hperm.countP_eq]
  refine List.countP_congr fun x _ => ?_
  simp only [decide_eq_true_eq]
  exact forall_congr' fun c => imp_congr_left hperm.mem_iff

theorem trailing_sortedBy_last [DecidableEq α] {x : α} (hx : x ∈ xs) (hlater : ∀ c ∈ xs, key x < key c → p c = true) :
    ∃ front, trailing p (sortedBy key (xs.erase x ++ [x])) =
      xs.countP (fun c => decide (key x < key c)) + trailing p (front ++ [x]) := by
  have hperm : (xs.erase x ++ [x]).Perm xs := (List.perm_append_singleton _ _).trans (List.perm_cons_erase hx).symm
  have hcount : ((sortedBy key (xs.erase x ++ [x])).filter fun c => key x < key c).length =
      xs.countP fun c => decide (key x < key c) := by
    rw [← List.countP_eq_length_filter, (sortedBy_perm.trans hperm).countP_eq]
  rw [sortedBy_split (key x), List.filter_append (p := fun c => key c = key x),
    List.filter_cons_of_pos (by simp), List.filter_nil, ← List.append_assoc, ← List.append_assoc,
    trailing_append_of_all, hcount]
  · exact ⟨_, rfl⟩
  · intro c hc
    obtain ⟨hc, hlt⟩ := List.mem_filter.mp hc
    exact hlater c (hperm.mem_iff.mp (mem_sortedBy.mp hc)) (of_decide_eq_true hlt)

theorem even_of_trailing [DecidableEq α]
    (h : ∀ xs', xs'.Perm xs → trailing p (sortedBy key xs') = trailing p (sortedBy key xs)) : Even key p xs := by
  have hlast : ∀ x ∈ xs, trailing p (sortedBy key (xs.erase x ++ [x])) = trailing p (sortedBy key xs) := by
    intro x hx
    exact h _ ((List.perm_append_singleton _ _).trans (List.perm_cons_erase hx).symm)
  -- of two elements of a tie, the one that satisfies the predicate makes the run longer when it comes last
  have hcase : ∀ a ∈ xs, ∀ b ∈ xs, key a = key b → (∀ c ∈ xs, key a < key c → p c = true) → p a = true → p b = true := by
    intro a ha b hb hkey hlater hpa
    by_contra hpb
    obtain ⟨front, hfront⟩ := trailing_sortedBy_last ha hlater
    obtain ⟨front', hfront'⟩ := trailing_sortedBy_last hb (hkey ▸ hlater)
    rw [hlast a ha, trailing_concat_pos front hpa] at hfront
    rw [hlast b hb, trailing_concat_neg front' (by simpa using hpb), ← hkey] at hfront'
    omega
  intro a ha b hb hkey hlater
  rw [Bool.eq_iff_iff]
  exact ⟨hcase a ha b hb hkey hlater, hcase b hb a ha hkey.symm (hkey ▸ hlater)⟩

end Sorted

end Keyed
