/-
What the tables of projects and conversations keep under any interleaving of
the calls, and exactly when.

The checks of a move and of a pin are made in an earlier connection than the
write. So the tables keep their invariant through a step if and only if the
step does not commit a move into a project that is gone, or pin a
conversation that was archived meanwhile; every other write keeps it.
-/
import ThreeAgent.ChatHistory

namespace ThreeAgent.ChatHistory

open PyText Outcome Interleaving

variable {s s' : ChatStore} {owner id now : String} {moment : ChatMoment} {ph : ChatPhase}

/-- The project of a conversation exists and has the same owner. -/
def ConversationRow.Filed (s : ChatStore) (r : ConversationRow) : Prop :=
  r.projectId = "" ∨ ∃ p ∈ s.projects, p.Is r.ownerKey r.projectId

instance (s : ChatStore) (r : ConversationRow) : Decidable (r.Filed s) := inferInstanceAs (Decidable (_ ∨ _))

/-- Every conversation is unfiled or in a project of its owner, and no archived one is pinned. -/
structure Organized (s : ChatStore) : Prop where
  filed : ∀ r ∈ s.conversations, r.Filed s
  unpinned : ∀ r ∈ s.conversations, r.archived = true → r.pinned = false

/-! ## Writes that keep the invariant -/

theorem ConversationRow.Filed.mono {r : ConversationRow} (h : r.Filed s)
    (hp : ∀ p ∈ s.projects, ∃ p' ∈ s'.projects, p'.projectId = p.projectId ∧ p'.ownerKey = p.ownerKey) : r.Filed s' := by
  rcases h with h | ⟨p, hp', hid, howner⟩
  · exact .inl h
  · obtain ⟨p', hmem, hid', howner'⟩ := hp p hp'
    exact .inr ⟨p', hmem, hid'.trans hid, howner'.trans howner⟩

theorem mem_updateProject {f : ProjectRow → ProjectRow}
    (hf : ∀ p, (f p).projectId = p.projectId ∧ (f p).ownerKey = p.ownerKey) :
    ∀ p ∈ s.projects, ∃ p' ∈ s.updateProject owner id f, p'.projectId = p.projectId ∧ p'.ownerKey = p.ownerKey := by
  intro p hp
  refine ⟨_, List.mem_map_of_mem hp, ?_⟩
  split
  · exact hf p
  · exact ⟨rfl, rfl⟩

theorem mem_updateConversation {f : ConversationRow → ConversationRow}
    {r : ConversationRow} (h : r ∈ s.updateConversation owner id f) :
    (∃ r₀ ∈ s.conversations, r₀.Is owner id ∧ r = f r₀) ∨ (r ∈ s.conversations ∧ ¬ r.Is owner id) := by
  obtain ⟨r₀, hr₀, rfl⟩ := List.mem_map.mp h
  split
  · rename_i his
    exact .inl ⟨r₀, hr₀, his, rfl⟩
  · rename_i his
    exact .inr ⟨hr₀, his⟩

section

variable (hs : Organized s)
include hs

theorem createConversation_organized {title : String}
    (h : createConversation s moment owner title = .ok (s', ph)) : Organized s' := by
  simp only [createConversation, bind_ok, require_ok, pure_ok, exists_const, Prod.mk.injEq] at h
  obtain ⟨owner', -, -, rfl, rfl⟩ := h
  constructor
  · intro r hr
    rcases List.mem_append.mp hr with hr | hr
    · exact hs.filed r hr
    · rw [List.mem_singleton.mp hr]
      exact .inl rfl
  · intro r hr
    rcases List.mem_append.mp hr with hr | hr
    · exact hs.unpinned r hr
    · rw [List.mem_singleton.mp hr]
      intro _
      rfl

theorem createProject_organized {name : String}
    (h : createProject s moment owner name = .ok (s', ph)) : Organized s' := by
  simp only [createProject, bind_ok, require_ok, pure_ok, exists_const, Prod.mk.injEq] at h
  obtain ⟨owner', -, name', -, -, rfl, rfl⟩ := h
  refine ⟨?_, hs.unpinned⟩
  intro r hr
  exact (hs.filed r hr).mono fun p hp => ⟨p, List.mem_append_left _ hp, rfl, rfl⟩

theorem renameProject_organized {name : String}
    (h : renameProject s now owner id name = .ok (s', ph)) : Organized s' := by
  simp only [renameProject, bind_ok, require_ok, pure_ok, exists_const, Prod.mk.injEq] at h
  obtain ⟨-, rfl, rfl⟩ := h
  refine ⟨?_, hs.unpinned⟩
  intro r hr
  exact (hs.filed r hr).mono (mem_updateProject fun p => ⟨rfl, rfl⟩)

theorem deleteProject_organized
    (h : deleteProject s now owner id = .ok (s', ph)) : Organized s' := by
  simp only [deleteProject, bind_ok, require_ok, pure_ok, exists_const, Prod.mk.injEq] at h
  obtain ⟨-, rfl, rfl⟩ := h
  constructor
  · intro r hr
    obtain ⟨r₀, hr₀, rfl⟩ := List.mem_map.mp hr
    by_cases hin : r₀.IsIn owner id
    · rw [if_pos hin]
      exact .inl rfl
    · rw [if_neg hin]
      rcases hs.filed r₀ hr₀ with h | ⟨p, hp, hid, howner⟩
      · exact .inl h
      · refine .inr ⟨p, List.mem_filter.mpr ⟨hp, decide_eq_true ?_⟩, hid, howner⟩
        rintro ⟨hid', howner'⟩
        exact hin ⟨howner.symm.trans howner', hid.symm.trans hid'⟩
  · intro r hr
    obtain ⟨r₀, hr₀, rfl⟩ := List.mem_map.mp hr
    split
    · exact hs.unpinned r₀ hr₀
    · exact hs.unpinned r₀ hr₀

theorem deleteConversation_organized
    (h : deleteConversation s owner id = .ok (s', ph)) : Organized s' := by
  simp only [deleteConversation, bind_ok, require_ok, pure_ok, exists_const, Prod.mk.injEq] at h
  obtain ⟨-, rfl, rfl⟩ := h
  exact ⟨fun r hr => hs.filed r (List.mem_of_mem_filter hr), fun r hr => hs.unpinned r (List.mem_of_mem_filter hr)⟩

end

/-! ## What a write needs -/

/-- A move goes into a project that is still there, and a pin to a conversation that is not archived. -/
def ChatWrite.Current (s : ChatStore) : ChatWrite → Prop
  | .move owner id target =>
    target ≠ "" → (∃ r ∈ s.conversations, r.Is owner id) → ∃ p ∈ s.projects, p.Is owner target
  | .pin owner id pinned => pinned = true → ∀ r ∈ s.conversations, r.Is owner id → r.archived = false
  | _ => True

theorem isSome_project_move {target o i : String} :
    (∃ p ∈ (if target = "" then s.projects else s.updateProject owner target fun p => { p with updatedAt := now }),
      p.Is o i) ↔ ∃ p ∈ s.projects, p.Is o i := by
  split
  · rfl
  · constructor
    · rintro ⟨p, hp, his⟩
      obtain ⟨p₀, hp₀, rfl⟩ := List.mem_map.mp hp
      refine ⟨p₀, hp₀, ?_⟩
      split at his
      · exact his
      · exact his
    · rintro ⟨p, hp, hid, howner⟩
      have hf : ∀ p : ProjectRow, { p with updatedAt := now }.projectId = p.projectId ∧
          { p with updatedAt := now }.ownerKey = p.ownerKey := fun _ => ⟨rfl, rfl⟩
      obtain ⟨p', hp', hid', howner'⟩ := mem_updateProject hf p hp
      exact ⟨p', hp', hid'.trans hid, howner'.trans howner⟩

theorem move_organized_iff {target : String} (hs : Organized s)
    (h : commit s now (.move owner id target) = .ok (s', ph)) :
    Organized s' ↔ (ChatWrite.move owner id target).Current s := by
  simp only [commit, Except.ok.injEq, Prod.mk.injEq] at h
  obtain ⟨rfl, rfl⟩ := h
  constructor
  · rintro hafter htarget ⟨r, hr, his⟩
    have hmem := List.mem_map_of_mem (f := fun r : ConversationRow =>
      if r.Is owner id then { r with projectId := target, updatedAt := now } else r) hr
    rw [if_pos his] at hmem
    rcases hafter.filed _ hmem with hempty | hproject
    · exact absurd hempty htarget
    · rw [← his.2]
      exact isSome_project_move.mp hproject
  · intro hcurrent
    constructor
    · intro r hr
      rcases mem_updateConversation hr with ⟨r₀, hr₀, his, rfl⟩ | ⟨hr, -⟩
      · by_cases htarget : target = ""
        · exact .inl htarget
        · have hproject := hcurrent htarget ⟨r₀, hr₀, his⟩
          rw [← his.2] at hproject
          exact .inr (isSome_project_move.mpr hproject)
      · rcases hs.filed r hr with hempty | hproject
        · exact .inl hempty
        · exact .inr (isSome_project_move.mpr hproject)
    · intro r hr
      rcases mem_updateConversation hr with ⟨r₀, hr₀, -, rfl⟩ | ⟨hr, -⟩
      · exact hs.unpinned r₀ hr₀
      · exact hs.unpinned r hr

theorem pin_organized_iff {pinned : Bool}
    (hs : Organized s) (h : commit s now (.pin owner id pinned) = .ok (s', ph)) :
    Organized s' ↔ (ChatWrite.pin owner id pinned).Current s := by
  simp only [commit, Except.ok.injEq, Prod.mk.injEq] at h
  obtain ⟨rfl, rfl⟩ := h
  constructor
  · intro hafter hpinned r hr his
    have hmem := List.mem_map_of_mem (f := fun r : ConversationRow =>
      if r.Is owner id then { r with pinned := pinned, updatedAt := now } else r) hr
    rw [if_pos his] at hmem
    have hunpinned := hafter.unpinned _ hmem
    cases harchived : r.archived with
    | false => rfl
    | true =>
      have hfalse : pinned = false := hunpinned harchived
      rw [hpinned] at hfalse
      cases hfalse
  · intro hcurrent
    constructor
    · intro r hr
      rcases mem_updateConversation hr with ⟨r₀, hr₀, -, rfl⟩ | ⟨hr, -⟩
      · exact hs.filed r₀ hr₀
      · exact hs.filed r hr
    · intro r hr harchived
      rcases mem_updateConversation hr with ⟨r₀, hr₀, his, rfl⟩ | ⟨hr, -⟩
      · cases hpinned : pinned with
        | false => rfl
        | true =>
          have hopen := hcurrent hpinned r₀ hr₀ his
          have harchived' : r₀.archived = true := harchived
          rw [hopen] at harchived'
          cases harchived'
      · exact hs.unpinned r hr harchived

theorem archive_organized {archived : Bool}
    (hs : Organized s) (h : commit s now (.archive owner id archived) = .ok (s', ph)) : Organized s' := by
  simp only [commit, Except.ok.injEq, Prod.mk.injEq] at h
  obtain ⟨rfl, rfl⟩ := h
  constructor
  · intro r hr
    rcases mem_updateConversation hr with ⟨r₀, hr₀, -, rfl⟩ | ⟨hr, -⟩
    · exact hs.filed r₀ hr₀
    · exact hs.filed r hr
  · intro r hr harchived
    rcases mem_updateConversation hr with ⟨r₀, -, -, rfl⟩ | ⟨hr, -⟩
    · have harchived' : archived = true := harchived
      exact if_pos harchived'
    · exact hs.unpinned r hr harchived

theorem commit_organized_iff {w : ChatWrite} (hs : Organized s)
    (h : commit s now w = .ok (s', ph)) : Organized s' ↔ w.Current s := by
  cases w with
  | move owner id target => exact move_organized_iff hs h
  | pin owner id pinned => exact pin_organized_iff hs h
  | archive owner id archived => exact iff_of_true (archive_organized hs h) trivial
  | rename owner id name => exact iff_of_true (renameProject_organized hs h) trivial
  | deleteProject owner id => exact iff_of_true (deleteProject_organized hs h) trivial
  | deleteConversation owner id => exact iff_of_true (deleteConversation_organized hs h) trivial

theorem current_of_error {w : ChatWrite} {e : Raised} (h : commit s now w = .error e) :
    w.Current s := by
  cases w with
  | move owner id target => cases h
  | pin owner id pinned => cases h
  | archive owner id archived => cases h
  | rename owner id name => trivial
  | deleteProject owner id => trivial
  | deleteConversation owner id => trivial

theorem prepare_organized {r : ChatRequest} (hs : Organized s)
    (h : prepare s moment r = .ok (s', ph)) : Organized s' := by
  cases r with
  | createConversation owner title => exact createConversation_organized hs h
  | createProject owner name => exact createProject_organized hs h
  | moveConversation owner conversationId projectId =>
    simp only [prepare, bind_ok] at h
    obtain ⟨row, -, h⟩ := h
    split at h <;>
    · simp only [pure_ok, Prod.mk.injEq] at h
      rw [← h.1]
      exact hs
  | setPinned owner conversationId pinned =>
    simp only [prepare, bind_ok, require_ok, pure_ok, exists_const, Prod.mk.injEq] at h
    obtain ⟨row, -, -, rfl, -⟩ := h
    exact hs
  | renameProject owner projectId name =>
    simp only [prepare, bind_ok, pure_ok, Prod.mk.injEq] at h
    obtain ⟨row, -, name', -, rfl, -⟩ := h
    exact hs
  | _ =>
    simp only [prepare, bind_ok, pure_ok, Prod.mk.injEq] at h
    obtain ⟨row, -, rfl, -⟩ := h
    exact hs

theorem chatAct_organized_iff (moment : ChatMoment) (c : ChatCall) (hs : Organized s) :
    Organized (chatAct moment s c).1 ↔ ∀ w, c.phase = .writing w → w.Current s := by
  obtain ⟨request, phase⟩ := c
  cases phase with
  | writing w =>
    have hphase : (∀ w', ChatPhase.writing w = .writing w' → w'.Current s) ↔ w.Current s :=
      ⟨fun h => h w rfl, fun h w' heq => ChatPhase.writing.inj heq ▸ h⟩
    rw [hphase]
    cases h : commit s moment.now w with
    | ok r =>
      obtain ⟨s', ph⟩ := r
      simp only [chatAct, chatBlock, h]
      exact commit_organized_iff hs h
    | error e =>
      simp only [chatAct, chatBlock, h]
      exact iff_of_true hs (current_of_error h)
  | ready =>
    refine iff_of_true ?_ (by simp)
    cases h : prepare s moment request with
    | ok r =>
      simp only [chatAct, chatBlock, h]
      exact prepare_organized hs h
    | error e =>
      simp only [chatAct, chatBlock, h]
      exact hs
  | locating owner conversationId projectId =>
    refine iff_of_true ?_ (by simp)
    simp only [chatAct, chatBlock]
    cases ownedProject s owner projectId with
    | ok project => exact hs
    | error e => exact hs
  | readingConversation owner id =>
    refine iff_of_true ?_ (by simp)
    simp only [chatAct, chatBlock]
    cases ownedRow s owner id with
    | ok row => exact hs
    | error e => exact hs
  | readingProject owner id =>
    refine iff_of_true ?_ (by simp)
    simp only [chatAct, chatBlock]
    cases projectReply s owner id with
    | ok reply => exact hs
    | error e => exact hs
  | done reply => exact iff_of_true hs (by simp)

/-! ## Runs -/

/-- The condition on an event: the write that it commits, if it commits one, is still current. -/
def Current (w : World ChatStore ChatCall) (e : Event ChatRequest ChatMoment) : Prop :=
  ∀ i moment c write, e = .move i moment → w.calls[i]? = some c → c.phase = .writing write → write.Current w.shared

theorem after_organized_iff (w : World ChatStore ChatCall) (e : Event ChatRequest ChatMoment) (hw : Organized w.shared) :
    Organized (chatProgram.after w e).shared ↔ Current w e := by
  rcases chatProgram.after_cases w e with ⟨r, rfl, hafter⟩ | ⟨i, moment, c, rfl, hget, hafter⟩ | ⟨i, moment, rfl, hget, hafter⟩
  · rw [hafter]
    refine iff_of_true hw ?_
    intro i moment c write heq
    cases heq
  · rw [hafter]
    refine (chatAct_organized_iff moment c hw).trans ?_
    constructor
    · intro h i' moment' c' write heq hget' hphase
      cases heq
      rw [hget] at hget'
      cases hget'
      exact h write hphase
    · intro h write hphase
      exact h i moment c write rfl hget hphase
  · rw [hafter]
    refine iff_of_true hw ?_
    intro i' moment' c' write heq hget'
    cases heq
    rw [hget] at hget'
    cases hget'

/-- In every state of a run each conversation is unfiled or in a project of its owner and no archived one is pinned,
if and only if each move commits while its project is there and each pin while its conversation is not archived. -/
theorem organized_over_runs_iff (s : ChatStore) (hs : Organized s) (events : List (Event ChatRequest ChatMoment)) :
    chatProgram.Always (fun w => Organized w.shared) ⟨s, []⟩ events ↔ chatProgram.Each Current ⟨s, []⟩ events :=
  Program.always_iff_each (I := fun w => Organized w.shared) after_organized_iff hs

def sampleStore : ChatStore where
  conversations := [{ conversationId := "00000000000000c1", ownerKey := "ann", title := "Notes", createdAt := "t0",
                      updatedAt := "t0" }]
  projects := [{ projectId := "00000000000000b1", ownerKey := "ann", name := "Work", createdAt := "t0", updatedAt := "t0" }]

theorem sampleStore_organized : Organized sampleStore := by
  constructor
  · intro r hr
    rw [List.mem_singleton.mp hr]
    exact .inl rfl
  · intro r hr
    rw [List.mem_singleton.mp hr]
    simp

theorem current_start (w : World ChatStore ChatCall) (r : ChatRequest) : Current w (.start r) := by
  intro i moment c write heq
  cases heq

theorem current_of_phase {w : World ChatStore ChatCall} {i : Nat} {p : ChatPhase}
    (h : (w.calls[i]?).map ChatCall.phase = some p) (hph : ∀ write, p = .writing write → write.Current w.shared) :
    Current w (.move i moment) := by
  intro i' moment' c write heq hget hphase
  cases heq
  rw [hget] at h
  exact hph write ((Option.some.inj h).symm.trans hphase)

def moveAlone : List (Event ChatRequest ChatMoment) :=
  [.start (.moveConversation "ann" "00000000000000c1" (some "00000000000000b1")), .move 0 ⟨"t1", ""⟩, .move 0 ⟨"t2", ""⟩,
   .move 0 ⟨"t3", ""⟩]

theorem organized_after_moveAlone : Organized sampleStore ∧ chatProgram.Each Current ⟨sampleStore, []⟩ moveAlone ∧
    chatProgram.Always (fun w => Organized w.shared) ⟨sampleStore, []⟩ moveAlone := by
  have heach : chatProgram.Each Current ⟨sampleStore, []⟩ moveAlone := by
    refine ⟨current_start _ _, current_of_phase (p := .ready) rfl (by simp),
      current_of_phase (p := .locating "ann" "00000000000000c1" "00000000000000b1") (by decide) (by simp),
      current_of_phase (p := .writing (.move "ann" "00000000000000c1" "00000000000000b1")) (by decide) ?_, trivial⟩
    intro write hwrite
    cases hwrite
    intro _ _
    decide
  exact ⟨sampleStore_organized, heach, (organized_over_runs_iff sampleStore sampleStore_organized moveAlone).mpr heach⟩

/-- The project is deleted between the check and the update of the move. -/
def moveRace : List (Event ChatRequest ChatMoment) :=
  [.start (.moveConversation "ann" "00000000000000c1" (some "00000000000000b1")),
   .start (.deleteProject "ann" "00000000000000b1"), .move 0 ⟨"t1", ""⟩, .move 0 ⟨"t2", ""⟩, .move 1 ⟨"t3", ""⟩,
   .move 1 ⟨"t4", ""⟩, .move 0 ⟨"t5", ""⟩]

theorem moveRace_projects : (chatProgram.run ⟨sampleStore, []⟩ moveRace).shared.projects = [] ∧
    (chatProgram.run ⟨sampleStore, []⟩ moveRace).shared.conversations.map ConversationRow.projectId =
      ["00000000000000b1"] := by
  decide

/-- A conversation is left in a project that was deleted. -/
theorem moved_into_deleted_project :
    Organized sampleStore ∧ ¬ chatProgram.Always (fun w => Organized w.shared) ⟨sampleStore, []⟩ moveRace := by
  refine ⟨sampleStore_organized, ?_⟩
  intro h
  obtain ⟨hprojects, hids⟩ := moveRace_projects
  have hmem : "00000000000000b1" ∈
      (chatProgram.run ⟨sampleStore, []⟩ moveRace).shared.conversations.map ConversationRow.projectId := by
    rw [hids]
    exact List.mem_singleton.mpr rfl
  obtain ⟨r, hr, hid⟩ := List.mem_map.mp hmem
  rcases h.last.filed r hr with hempty | ⟨p, hp, -⟩
  · rw [hid] at hempty
    exact absurd hempty (by decide)
  · rw [hprojects] at hp
    exact absurd hp List.not_mem_nil

end ThreeAgent.ChatHistory
