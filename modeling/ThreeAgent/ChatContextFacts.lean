/-
What the packed context of a conversation keeps to: its length always, and
just when the packed messages are the newest ones without a gap, each within
its own limit.

A compaction never goes below a head and a tail of 32 characters around its
marker, so within a limit of less than 90 it may be longer than the limit; and
the header of an assistant's message is longer than that of a user's. Both
let a message be skipped and an older one be packed.
-/
import ThreeAgent.ChatContext
import ThreeAgent.Lib.WholeFloat

namespace ThreeAgent.ChatContext

open PyText PyJson GreedyWalk

variable {F : Type} [PyRuntime F]

/-! ## The walk -/

section Walk

variable {limits : PackLimits} {p p' : Packing} {item : Json F}

/-- A head and a tail of 32 characters around the marker of 26 take 90; above that the limit is kept. -/
theorem length_compact_le (text : String) (limit : Int) : ((compact text limit).toList.length : Int) ≤ max 90 limit := by
  have hmarker : compactionMarker.toList.length = 26 := rfl
  rw [compact]
  dsimp only
  split
  · omega
  · rw [hmarker]
    generalize hremaining : (max 80 limit).toNat - 26 = remaining
    have hfront : (rstripList ((strip text).toList.take (max 32 (remaining / 2)))).length ≤ max 32 (remaining / 2) :=
      (List.rdropWhile_prefix _ _).length_le.trans (List.length_take_le _ _)
    have htail : (((strip text).toList.drop ((strip text).toList.length -
        max 32 (remaining - max 32 (remaining / 2)))).dropWhile isSpace).length ≤
          max 32 (remaining - max 32 (remaining / 2)) := by
      refine (List.length_dropWhile_le _ _).trans ?_
      rw [List.length_drop]
      omega
    simp only [String.toList_append, String.toList_ofList, List.length_append, hmarker]
    omega

/-- A message is packed: 90 characters are left after its header, or at least 80 and its compaction is within them. -/
def Fits (limits : PackLimits) (room : Int) (item : Json F) : Prop :=
  let left := room - (headerOf (promptRole item)).toList.length
  80 ≤ left ∧ (90 ≤ left ∨ ((compact (contentOf item) (min limits.perMessageLimit left)).toList.length : Int) ≤ left)

theorem fits_iff {room : Int} : Fits limits room item ↔ 80 ≤ room - (headerOf (promptRole item)).toList.length ∧
    ((compact (contentOf item) (min limits.perMessageLimit
      (room - (headerOf (promptRole item)).toList.length))).toList.length : Int) ≤
        room - (headerOf (promptRole item)).toList.length := by
  refine and_congr_right fun _ => or_iff_right_of_imp fun hleft => ?_
  have hlength := length_compact_le (contentOf item)
    (min limits.perMessageLimit (room - (headerOf (promptRole item)).toList.length))
  omega

/-- What the text has left for a message after the separator. -/
def Packing.room (limits : PackLimits) (p : Packing) : Int := limits.totalBudget - p.used - p.separator

/-- The loop's variables after a message is packed. -/
def pushed (limits : PackLimits) (p : Packing) (item : Json F) : Packing where
  used := p.used + ((headerOf (promptRole item)).toList.length + (bodyOf limits p item).toList.length + p.separator)
  packedReversed := p.packedReversed ++ [⟨promptRole item, bodyOf limits p item, (contentOf item).toList.length⟩]

theorem packStep_some : packStep limits p item = some p' ↔ Fits limits (p.room limits) item ∧ p' = pushed limits p item := by
  have havailable : available limits p item = p.room limits - (headerOf (promptRole item)).toList.length := rfl
  rw [packStep, fits_iff, ← havailable, ← bodyOf]
  dsimp only
  split
  · rename_i hsmall
    refine ⟨nofun, ?_⟩
    intro ⟨⟨hroom, _⟩, _⟩
    omega
  · rename_i hroom
    have hcost : limits.totalBudget < p.used + ((headerOf (promptRole item)).toList.length +
        (bodyOf limits p item).toList.length + p.separator) ↔
        ¬ ((bodyOf limits p item).toList.length : Int) ≤ available limits p item := by
      rw [available]
      omega
    split
    · rename_i hover
      refine ⟨nofun, ?_⟩
      intro ⟨⟨_, hfits⟩, _⟩
      exact absurd hfits (hcost.mp hover)
    · rename_i hfits
      rw [hcost, not_not] at hfits
      rw [Option.some_inj]
      exact ⟨fun h => ⟨⟨not_lt.mp hroom, hfits⟩, h.symm⟩, fun h => h.2.symm⟩

theorem packStep_none : packStep limits p item = none ↔ ¬ Fits limits (p.room limits) item := by
  rw [← not_iff_not, not_not, ← ne_eq, Option.ne_none_iff_exists']
  refine ⟨?_, ?_⟩
  · intro ⟨p', hp⟩
    exact (packStep_some.mp hp).1
  · intro hfits
    exact ⟨_, packStep_some.mpr ⟨hfits, rfl⟩⟩

theorem length_render_cons (turn : PackedTurn) (turns : List PackedTurn) : (render (turn :: turns)).toList.length =
    (headerOf turn.role).toList.length + turn.body.toList.length + (if turns = [] then 0 else 2) +
    (render turns).toList.length := by
  have hsep : "\n\n".toList.length = 2 := rfl
  cases turns with
  | nil => simp [render, List.intercalate]
  | cons next turns =>
    simp only [render, List.map_cons, String.toList_ofList, List.intercalate_cons_cons, List.length_append, String.toList_append,
      hsep, reduceCtorEq, if_false]

/-- What the loop keeps: the count of the characters, which stay within the budget. -/
structure Counted (limits : PackLimits) (p : Packing) : Prop where
  used : p.used = (render p.packedReversed.reverse).toList.length
  within : p.used ≤ limits.totalBudget

theorem Counted.step (h : Counted limits p) (hp : packStep limits p item = some p') : Counted limits p' := by
  obtain ⟨hfits, rfl⟩ := packStep_some.mp hp
  refine ⟨?_, ?_⟩
  · have hused := h.used
    simp only [pushed, List.reverse_append, List.reverse_singleton, List.singleton_append, length_render_cons, Packing.separator,
      List.reverse_eq_nil_iff]
    split
    · omega
    · omega
  · have hbody : ((bodyOf limits p item).toList.length : Int) ≤
        p.room limits - (headerOf (promptRole item)).toList.length := (fits_iff.mp hfits).2
    rw [Packing.room] at hbody
    rw [pushed]
    dsimp only
    omega

/-- A turn is made of a message: its role, and the compaction of its content to some limit. -/
structure TurnOf (limits : PackLimits) (item : Json F) (turn : PackedTurn) : Prop where
  role : turn.role = promptRole item
  sourceChars : turn.sourceChars = (contentOf item).toList.length
  body : ∃ room : Int, turn.body = compact (contentOf item) (min limits.perMessageLimit room)

theorem turnOf_pushed (limits : PackLimits) (p : Packing) (item : Json F) :
    TurnOf limits item ⟨promptRole item, bodyOf limits p item, (contentOf item).toList.length⟩ := by
  refine ⟨?_, ?_, available limits p item, ?_⟩
  · dsimp only
  · dsimp only
  · dsimp only
    rw [bodyOf]

theorem turns_of_taken {items : List (Json F)} : ∀ p : Packing, ∃ turns,
    (walk (packStep limits) p items).packedReversed = p.packedReversed ++ turns ∧
      List.Forall₂ (TurnOf limits) (taken (packStep limits) p items) turns := by
  induction items with
  | nil => exact fun p => ⟨[], (List.append_nil _).symm, .nil⟩
  | cons item items ih =>
    intro p
    have hwalk : walk (packStep limits) p (item :: items) = walk (packStep limits) ((packStep limits p item).getD p) items := rfl
    rw [hwalk, taken]
    cases hp : packStep limits p item with
    | none => exact ih p
    | some p' =>
      obtain ⟨-, rfl⟩ := packStep_some.mp hp
      obtain ⟨turns, hturns, hforall⟩ := ih (pushed limits p item)
      refine ⟨_, ?_, .cons (turnOf_pushed limits p item) hforall⟩
      rw [Option.getD_some, hturns, pushed, List.append_assoc]
      rfl

theorem bodies_iff {n : Int} {items : List (Json F)} : ∀ {p : Packing},
    (∀ turn ∈ (walk (packStep limits) p items).packedReversed, (turn.body.toList.length : Int) ≤ n) ↔
      (∀ turn ∈ p.packedReversed, (turn.body.toList.length : Int) ≤ n) ∧
        Throughout (packStep limits) (fun p item => ((bodyOf limits p item).toList.length : Int) ≤ n) p items := by
  induction items with
  | nil => exact fun {p} => (and_iff_left trivial).symm
  | cons item items ih =>
    intro p
    have hwalk : walk (packStep limits) p (item :: items) = walk (packStep limits) ((packStep limits p item).getD p) items := rfl
    rw [hwalk, Throughout, ih]
    cases hp : packStep limits p item with
    | none => rfl
    | some p' =>
      obtain ⟨-, rfl⟩ := packStep_some.mp hp
      rw [Option.getD_some]
      dsimp only
      rw [pushed, List.forall_mem_append, List.forall_mem_singleton, and_assoc]

end Walk

/-! ## When the newest messages are packed -/

/-- The messages from the newest back are packed as far as they fit, each within its limit where that is less than 90, and
no older one fits after that. -/
def Orderly (limits : PackLimits) : Int → List (Json F) → Prop
  | _, [] => True
  | room, item :: items =>
    let left := room - (headerOf (promptRole item)).toList.length
    let body := compact (contentOf item) (min limits.perMessageLimit left)
    (Fits limits room item → (90 ≤ limits.perMessageLimit ∨ (body.toList.length : Int) ≤ limits.perMessageLimit) ∧
      Orderly limits (left - body.toList.length - 2) items) ∧
    (¬ Fits limits room item → ∀ older ∈ items, ¬ Fits limits room older)

theorem room_pushed (limits : PackLimits) (p : Packing) (item : Json F) : (pushed limits p item).room limits =
    p.room limits - (headerOf (promptRole item)).toList.length - (bodyOf limits p item).toList.length - 2 := by
  have hsep : (pushed limits p item).separator = 2 := if_neg (List.append_ne_nil_of_right_ne_nil _ (List.cons_ne_nil _ _))
  rw [Packing.room, hsep, Packing.room, pushed]
  dsimp only
  omega

theorem bodyOf_within {limits : PackLimits} {p : Packing} {item : Json F} :
    90 ≤ limits.perMessageLimit ∨ ((bodyOf limits p item).toList.length : Int) ≤ limits.perMessageLimit ↔
      ((bodyOf limits p item).toList.length : Int) ≤ limits.perMessageLimit := by
  refine or_iff_right_of_imp fun hlimit => ?_
  have hlength := length_compact_le (contentOf item) (min limits.perMessageLimit (available limits p item))
  rw [bodyOf]
  omega

theorem steady_iff_orderly {limits : PackLimits} {items : List (Json F)} : ∀ {p : Packing},
    Steady (packStep limits) (fun p item => ((bodyOf limits p item).toList.length : Int) ≤ limits.perMessageLimit) p items ↔
      Orderly limits (p.room limits) items := by
  induction items with
  | nil => exact fun {p} => Iff.rfl
  | cons item items ih =>
    intro p
    have hbody : bodyOf limits p item = compact (contentOf item) (min limits.perMessageLimit
      (p.room limits - (headerOf (promptRole item)).toList.length)) := rfl
    rw [Steady, Orderly, ← hbody, bodyOf_within]
    cases hp : packStep limits p item with
    | none =>
      have hnot := packStep_none.mp hp
      simp only [packStep_none, hnot, false_implies, not_false_eq_true, true_implies, true_and]
    | some p' =>
      obtain ⟨hfits, rfl⟩ := packStep_some.mp hp
      dsimp only
      rw [ih, room_pushed]
      simp only [hfits, true_implies, not_true_eq_false, false_implies, and_true]

/-! ## The context of a conversation -/

section Context

variable (classify : String → String × String × String) (messages : List (Json F)) (currentRequest currentJobId : String)
  (maxChars maxMessages perMessageChars : Int)

def newestFirst : List (Json F) := (selectedMessages (eligibleMessages messages currentJobId) maxMessages).reverse

def packedTurns : List PackedTurn :=
  (packing (packLimits maxChars perMessageChars)
    (selectedMessages (eligibleMessages messages currentJobId) maxMessages)).packedReversed.reverse

/-- What is asked of the context: its length, that of each turn, and that its turns are the newest messages. -/
structure Continuous (plan : ConversationContextPlan) : Prop where
  text : plan.text = render (packedTurns messages currentJobId maxChars maxMessages perMessageChars)
  bounded : (plan.text.toList.length : Int) ≤ max 80 maxChars
  bodies : ∀ turn ∈ packedTurns messages currentJobId maxChars maxMessages perMessageChars,
    (turn.body.toList.length : Int) ≤ max 80 (min (max 80 maxChars) perMessageChars)
  consecutive : ∃ older kept, eligibleMessages messages currentJobId = older ++ kept ∧
    List.Forall₂ (TurnOf (packLimits maxChars perMessageChars)) kept
      (packedTurns messages currentJobId maxChars maxMessages perMessageChars) ∧
    Leading (marks (packStep (packLimits maxChars perMessageChars)) {} (newestFirst messages currentJobId maxMessages))
  nonempty : (∃ raw ∈ eligibleMessages messages currentJobId,
    80 ≤ max 80 maxChars - (headerOf (promptRole raw)).toList.length) → plan.text ≠ ""

/-- The newest messages fit in order, and where not even the newest fits, no message's header leaves 80 characters. -/
structure InOrder : Prop where
  orderly : Orderly (packLimits maxChars perMessageChars) (max 80 maxChars) (newestFirst messages currentJobId maxMessages)
  headers : (∀ newest ∈ (newestFirst messages currentJobId maxMessages).head?,
      ¬ Fits (packLimits maxChars perMessageChars) (max 80 maxChars) newest) →
    ∀ raw ∈ eligibleMessages messages currentJobId, max 80 maxChars - (headerOf (promptRole raw)).toList.length < 80

variable {classify messages currentRequest currentJobId maxChars maxMessages perMessageChars}

theorem text_eq : (buildContinuityContext classify messages currentRequest currentJobId maxChars maxMessages
    perMessageChars).text =
    render (packedTurns messages currentJobId maxChars maxMessages perMessageChars) := by
  rw [buildContinuityContext, packedTurns]
  dsimp only
  split
  · rename_i hnone
    rw [hnone, selectedMessages, List.rtake_nil]
    rfl
  · rfl

theorem newestFirst_suffix : ∃ older, eligibleMessages messages currentJobId =
    older ++ (newestFirst messages currentJobId maxMessages).reverse := by
  rw [newestFirst, selectedMessages, List.reverse_reverse]
  exact ⟨_, (List.take_append_drop _ _).symm⟩

theorem render_eq_empty {turns : List PackedTurn} : render turns = "" ↔ turns = [] := by
  refine ⟨?_, fun h => h ▸ rfl⟩
  intro h
  cases turns with
  | nil => rfl
  | cons turn turns =>
    have hlen := length_render_cons turn turns
    have hheader : 0 < (headerOf turn.role).toList.length := by
      rw [headerOf, String.toList_append, String.toList_append, List.length_append, List.length_append]
      exact Nat.add_pos_left (Nat.add_pos_left Nat.one_pos _) _
    rw [h] at hlen
    have hzero : ("" : String).toList.length = 0 := rfl
    omega

theorem packedTurns_eq_nil
    (hleading : Leading (marks (packStep (packLimits maxChars perMessageChars)) {}
      (newestFirst messages currentJobId maxMessages))) :
    packedTurns messages currentJobId maxChars maxMessages perMessageChars = [] ↔
      ∀ newest ∈ (newestFirst messages currentJobId maxMessages).head?,
        ¬ Fits (packLimits maxChars perMessageChars) (max 80 maxChars) newest := by
  obtain ⟨turns, hturns, hforall⟩ := @turns_of_taken _ _ (packLimits maxChars perMessageChars)
    (newestFirst messages currentJobId maxMessages) {}
  have hpacked : packedTurns messages currentJobId maxChars maxMessages perMessageChars = turns.reverse :=
    congrArg List.reverse hturns
  have hroom : Packing.room (packLimits maxChars perMessageChars) {} = max 80 maxChars := by
    simp only [Packing.room, Packing.separator, packLimits, if_true, Int.sub_zero]
  rw [hpacked, List.reverse_eq_nil_iff, ← hroom]
  generalize newestFirst messages currentJobId maxMessages = items at hforall hleading
  cases items with
  | nil =>
    cases hforall
    simp
  | cons item items =>
    rw [taken] at hforall
    rw [marks] at hleading
    simp only [List.head?_cons, Option.mem_some_iff, forall_eq']
    cases hp : packStep (packLimits maxChars perMessageChars) {} item with
    | some p' =>
      rw [hp] at hforall
      obtain ⟨hfits, -⟩ := packStep_some.mp hp
      cases hforall with
      | cons _ _ => exact iff_of_false (List.cons_ne_nil _ _) (absurd hfits)
    | none =>
      rw [hp] at hforall hleading
      dsimp only at hforall hleading
      have hskipped := skipped_of_marks (leading_false.mp hleading)
      rw [taken_of_skipped hskipped] at hforall
      cases hforall
      exact ⟨fun _ => packStep_none.mp hp, fun _ => rfl⟩

/-- The context is continuous just where the newest messages fit in order. -/
theorem continuous_iff (classify : String → String × String × String) (messages : List (Json F))
    (currentRequest currentJobId : String)
    (maxChars maxMessages perMessageChars : Int) :
    Continuous messages currentJobId maxChars maxMessages perMessageChars
        (buildContinuityContext classify messages currentRequest currentJobId maxChars maxMessages perMessageChars) ↔
      InOrder messages currentJobId maxChars maxMessages perMessageChars := by
  have hroom : Packing.room (packLimits maxChars perMessageChars) {} = max 80 maxChars := by
    simp only [Packing.room, Packing.separator, packLimits, if_true, Int.sub_zero]
  have hsteady := (@steady_iff _ _ (packStep (packLimits maxChars perMessageChars))
    (fun p item => ((bodyOf (packLimits maxChars perMessageChars) p item).toList.length : Int) ≤
      (packLimits maxChars perMessageChars).perMessageLimit) {} (newestFirst messages currentJobId maxMessages)).symm.trans
    steady_iff_orderly
  rw [hroom] at hsteady
  have hbodies := @bodies_iff _ _ (packLimits maxChars perMessageChars) (packLimits maxChars perMessageChars).perMessageLimit
    (newestFirst messages currentJobId maxMessages) {}
  rw [and_iff_right (List.forall_mem_nil _)] at hbodies
  have hturns : ∀ turn, turn ∈ packedTurns messages currentJobId maxChars maxMessages perMessageChars ↔
      turn ∈ (walk (packStep (packLimits maxChars perMessageChars)) {}
        (newestFirst messages currentJobId maxMessages)).packedReversed :=
    fun turn => List.mem_reverse
  refine ⟨?_, ?_⟩
  · intro h
    obtain ⟨-, -, -, -, hleading⟩ := h.consecutive
    refine ⟨hsteady.mp ⟨hleading, hbodies.mp fun turn hturn => h.bodies turn ((hturns turn).mpr hturn)⟩, ?_⟩
    intro hnone raw hraw
    by_contra hleft
    refine h.nonempty ⟨raw, hraw, not_lt.mp hleft⟩ ?_
    rw [h.text, render_eq_empty]
    exact (packedTurns_eq_nil hleading).mpr hnone
  · intro h
    obtain ⟨hleading, hthroughout⟩ := hsteady.mpr h.orderly
    refine ⟨text_eq, ?_, fun turn hturn => hbodies.mpr hthroughout turn ((hturns turn).mp hturn), ?_, ?_⟩
    · have hcounted : Counted (packLimits maxChars perMessageChars)
          (walk (packStep (packLimits maxChars perMessageChars)) {} (newestFirst messages currentJobId maxMessages)) :=
        walk_induction (fun _ _ _ hcounted hp => hcounted.step hp) ⟨rfl, le_max_of_le_left (by decide)⟩
      rw [text_eq]
      exact hcounted.used ▸ hcounted.within
    · obtain ⟨front, hfront⟩ := @newestFirst_suffix _ _ messages currentJobId maxMessages
      obtain ⟨rest, hrest⟩ := taken_of_leading hleading
      obtain ⟨turns, hwalk, hforall⟩ := @turns_of_taken _ _ (packLimits maxChars perMessageChars)
        (newestFirst messages currentJobId maxMessages) {}
      have hpacked : packedTurns messages currentJobId maxChars maxMessages perMessageChars = turns.reverse :=
        congrArg List.reverse hwalk
      refine ⟨front ++ rest.reverse, _, ?_, hpacked ▸ List.forall₂_reverse_iff.mpr hforall, hleading⟩
      rw [hfront, List.append_assoc, ← List.reverse_append, hrest]
    · intro hleft htext
      rw [text_eq, render_eq_empty, packedTurns_eq_nil hleading] at htext
      obtain ⟨raw, hraw, hroom⟩ := hleft
      exact absurd (h.headers htext raw hraw) (not_lt.mpr hroom)

end Context

def longMessage : Json WholeFloat := .obj [("role", .str "user"), ("content", .str (String.ofList (List.replicate 100 'a')))]

set_option maxRecDepth 4000 in
theorem eligible_longMessage : eligibleMessages [longMessage] "" = [longMessage] := List.filter_cons_of_pos (by decide)

set_option maxRecDepth 4000 in
/-- With 98 characters allowed, 85 are left after the header of the only message, but nothing is packed. -/
theorem long_message_dropped : ¬ Continuous [longMessage] "" 98 12 2400
    (buildContinuityContext (fun _ => (contextModeStandalone, "", "")) [longMessage] "" "" 98 12 2400) := by
  intro h
  refine h.nonempty ⟨longMessage, eligible_longMessage ▸ List.mem_cons_self, by decide⟩ ?_
  decide

end ThreeAgent.ChatContext
