/-
SHA-256 once more, in a form that the kernel evaluates quickly: every word is
computed before it is passed on, and the sixteen words of the window are
arguments. `digest_eq_fastDigest` replaces the one form by the other, for the
examples that need the digests of given texts.
-/
import ThreeAgent.Lib.Sha256

namespace Sha256

/-- Go on with a number that was computed. -/
def forced {α : Type} (n : Nat) (k : Nat → α) : α :=
  match n with
  | 0 => k 0
  | m + 1 => k (m + 1)

@[simp] theorem forced_eq {α : Type} (n : Nat) (k : Nat → α) : forced n k = k n := by
  cases n <;> rfl

theorem word_eq : word = 4294967296 := by decide

theorem mod_word (x : Nat) : Nat.mod x 4294967296 = x % word := by
  rw [word_eq]
  rfl

def fastRotr (x n m : Nat) : Nat := Nat.lor (Nat.shiftRight x n) (Nat.mod (Nat.shiftLeft x m) 4294967296)

def fastSigma (x n n' m m' k k' : Nat) : Nat := Nat.xor (Nat.xor (fastRotr x n n') (fastRotr x m m')) (fastRotr x k k')

def fastSchedule (x n n' m m' k : Nat) : Nat := Nat.xor (Nat.xor (fastRotr x n n') (fastRotr x m m')) (Nat.shiftRight x k)

def fastChoose (x y z : Nat) : Nat := Nat.xor (Nat.land x y) (Nat.land (Nat.sub 4294967295 x) z)

def fastMajority (x y z : Nat) : Nat := Nat.xor (Nat.xor (Nat.land x y) (Nat.land x z)) (Nat.land y z)

theorem fastRotr_eq (x : Nat) {n m : Nat} (h : 32 - n = m) : fastRotr x n m = rotr x n := by
  rw [fastRotr, mod_word, rotr, h]
  rfl

theorem fastSchedule_eq0 (x : Nat) : fastSchedule x 7 25 18 14 3 = smallSigma0 x := by
  rw [fastSchedule, fastRotr_eq x rfl, fastRotr_eq x rfl]
  rfl

theorem fastSchedule_eq1 (x : Nat) : fastSchedule x 17 15 19 13 10 = smallSigma1 x := by
  rw [fastSchedule, fastRotr_eq x rfl, fastRotr_eq x rfl]
  rfl

theorem fastSigma_eq0 (x : Nat) : fastSigma x 2 30 13 19 22 10 = bigSigma0 x := by
  rw [fastSigma, fastRotr_eq x rfl, fastRotr_eq x rfl, fastRotr_eq x rfl]
  rfl

theorem fastSigma_eq1 (x : Nat) : fastSigma x 6 26 11 21 25 7 = bigSigma1 x := by
  rw [fastSigma, fastRotr_eq x rfl, fastRotr_eq x rfl, fastRotr_eq x rfl]
  rfl

theorem fastChoose_eq (x y z : Nat) : fastChoose x y z = choose x y z := by
  rw [choose, word_eq]
  rfl

theorem fastMajority_eq (x y z : Nat) : fastMajority x y z = majority x y z := rfl

/-- `rounds`, over the window and the working variables. -/
def fastRounds : List Nat → Nat → Nat → Nat → Nat → Nat → Nat → Nat → Nat → Nat → Nat → Nat → Nat → Nat → Nat → Nat → Nat →
    Nat → Nat → Nat → Nat → Nat → Nat → Nat → Nat → State
  | [], _, _, _, _, _, _, _, _, _, _, _, _, _, _, _, _, a, b, c, d, e, f, g, h => ⟨a, b, c, d, e, f, g, h⟩
  | k :: ks, w0, w1, w2, w3, w4, w5, w6, w7, w8, w9, w10, w11, w12, w13, w14, w15, a, b, c, d, e, f, g, h =>
    forced (Nat.mod (Nat.add (Nat.add (Nat.add (fastSchedule w14 17 15 19 13 10) w9) (fastSchedule w1 7 25 18 14 3)) w0)
      4294967296) fun next =>
    forced (Nat.mod (Nat.add (Nat.add (Nat.add (Nat.add h (fastSigma e 6 26 11 21 25 7)) (fastChoose e f g)) k) w0)
      4294967296) fun t1 =>
    forced (Nat.mod (Nat.add t1 (Nat.mod (Nat.add (fastSigma a 2 30 13 19 22 10) (fastMajority a b c)) 4294967296))
      4294967296) fun a' =>
    forced (Nat.mod (Nat.add d t1) 4294967296) fun e' =>
    fastRounds ks w1 w2 w3 w4 w5 w6 w7 w8 w9 w10 w11 w12 w13 w14 w15 next a' a b c e' e f g

theorem fastRounds_eq (ks : List Nat) (w0 w1 w2 w3 w4 w5 w6 w7 w8 w9 w10 w11 w12 w13 w14 w15 a b c d e f g h : Nat) :
    fastRounds ks w0 w1 w2 w3 w4 w5 w6 w7 w8 w9 w10 w11 w12 w13 w14 w15 a b c d e f g h =
      rounds ks [w0, w1, w2, w3, w4, w5, w6, w7, w8, w9, w10, w11, w12, w13, w14, w15] ⟨a, b, c, d, e, f, g, h⟩ := by
  induction ks generalizing w0 w1 w2 w3 w4 w5 w6 w7 w8 w9 w10 w11 w12 w13 w14 w15 a b c d e f g h with
  | nil => rfl
  | cons k ks ih =>
    simp only [fastRounds, forced_eq, ih, mod_word, Nat.add_eq, fastSchedule_eq0, fastSchedule_eq1, fastSigma_eq0,
      fastSigma_eq1, fastChoose_eq, fastMajority_eq]
    simp only [rounds, round, List.headD_cons, List.getD_cons_succ, List.getD_cons_zero, List.tail_cons,
      List.cons_append, List.nil_append]

/-- Go on with the sum of two states that was computed. -/
def fastAdd {α : Type} (s t : State) (k : State → α) : α :=
  forced (Nat.mod (Nat.add s.a t.a) 4294967296) fun a => forced (Nat.mod (Nat.add s.b t.b) 4294967296) fun b =>
  forced (Nat.mod (Nat.add s.c t.c) 4294967296) fun c => forced (Nat.mod (Nat.add s.d t.d) 4294967296) fun d =>
  forced (Nat.mod (Nat.add s.e t.e) 4294967296) fun e => forced (Nat.mod (Nat.add s.f t.f) 4294967296) fun f =>
  forced (Nat.mod (Nat.add s.g t.g) 4294967296) fun g => forced (Nat.mod (Nat.add s.h t.h) 4294967296) fun h =>
  k ⟨a, b, c, d, e, f, g, h⟩

theorem fastAdd_eq {α : Type} (s t : State) (k : State → α) : fastAdd s t k =
    k ⟨(s.a + t.a) % word, (s.b + t.b) % word, (s.c + t.c) % word, (s.d + t.d) % word,
      (s.e + t.e) % word, (s.f + t.f) % word, (s.g + t.g) % word, (s.h + t.h) % word⟩ := by
  simp only [fastAdd, forced_eq, mod_word, Nat.add_eq]

-- an equation of functions: applied to its arguments, the kernel would compare the two states first
theorem blocks_succ (n : Nat) : blocks (n + 1) = fun ws s => blocks n (ws.drop 16) (compress s (ws.take 16)) := rfl

/-- All blocks of sixteen words. -/
def fastBlocks (ks : List Nat) : List Nat → State → State
  | w0 :: w1 :: w2 :: w3 :: w4 :: w5 :: w6 :: w7 :: w8 :: w9 :: w10 :: w11 :: w12 :: w13 :: w14 :: w15 :: ws, s =>
    fastAdd s (fastRounds ks w0 w1 w2 w3 w4 w5 w6 w7 w8 w9 w10 w11 w12 w13 w14 w15 s.a s.b s.c s.d s.e s.f s.g s.h)
      (fastBlocks ks ws)
  | _, s => s

theorem fastBlocks_eq (n : Nat) (ws : List Nat) (s : State) (h : ws.length / 16 = n) :
    fastBlocks roundConstants ws s = blocks n ws s := by
  induction n generalizing ws s with
  | zero =>
    unfold fastBlocks
    split
    · simp only [List.length_cons] at h
      omega
    · rfl
  | succ n ih =>
    have hlen : 16 ≤ ws.length := by omega
    match ws, hlen, h with
    | w0 :: w1 :: w2 :: w3 :: w4 :: w5 :: w6 :: w7 :: w8 :: w9 :: w10 :: w11 :: w12 :: w13 :: w14 :: w15 :: ws, _, h =>
      have hrest : ws.length / 16 = n := by
        simp only [List.length_cons] at h
        omega
      have htake : (w0 :: w1 :: w2 :: w3 :: w4 :: w5 :: w6 :: w7 :: w8 :: w9 :: w10 :: w11 :: w12 :: w13 :: w14 :: w15 ::
          ws).take 16 = [w0, w1, w2, w3, w4, w5, w6, w7, w8, w9, w10, w11, w12, w13, w14, w15] := rfl
      rw [fastBlocks, blocks_succ, fastAdd_eq, ih _ _ hrest, fastRounds_eq]
      simp only [htake, compress]
      rfl

/-- `words`, each computed. -/
def fastWords : List Nat → List Nat
  | a :: b :: c :: d :: rest =>
    forced (Nat.add (Nat.mul (Nat.add (Nat.mul (Nat.add (Nat.mul a 256) b) 256) c) 256) d) fun w => w :: fastWords rest
  | _ => []

theorem fastWords_eq (bytes : List Nat) : fastWords bytes = words bytes := by
  fun_induction words bytes with
  | case1 a b c d rest ih =>
    simp only [fastWords, forced_eq, ih]
    rfl
  | case2 bytes h =>
    unfold fastWords
    split
    · exact absurd rfl (h _ _ _ _ _)
    · rfl

def fastDigest (bytes : List Nat) : List Char :=
  let s := fastBlocks roundConstants (fastWords (pad bytes)) initial
  [s.a, s.b, s.c, s.d, s.e, s.f, s.g, s.h].flatMap hexWord

theorem digest_eq_fastDigest (bytes : List Nat) : digest bytes = fastDigest bytes := by
  simp only [digest, fastDigest, fastWords_eq]
  rw [fastBlocks_eq _ _ _ rfl]

theorem hexdigest_ofList (cs : List Char) : hexdigest (String.ofList cs) =
    String.ofList (fastDigest (cs.flatMap fun c => (String.utf8EncodeChar c).map UInt8.toNat)) := by
  rw [hexdigest, utf8, String.toList_ofList, digest_eq_fastDigest]

end Sha256
