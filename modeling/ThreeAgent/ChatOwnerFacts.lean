/-
The owners of one chat store. Every statement of a call names its owner, and a
call keeps the owner it was made for from its first check to its answer; so
under any interleaving the rows of an owner change in that owner's calls only,
and an answer shows the caller's rows only.

The two creates strip the owner that they are given; the other calls compare
the text as it is.
-/
import ThreeAgent.ChatHistory

namespace ThreeAgent.ChatHistory

open PyText Outcome Interleaving

/-- The owner whose rows a call reads and writes. -/
def ChatRequest.owner : ChatRequest → String
  | .createConversation owner _ | .createProject owner _ => strip owner
  | .renameProject owner _ _ | .deleteProject owner _ | .moveConversation owner _ _ | .setPinned owner _ _
  | .setArchived owner _ _ | .deleteConversation owner _ => owner

def ChatWrite.owner : ChatWrite → String
  | .rename owner _ _ | .deleteProject owner _ | .move owner _ _ | .pin owner _ _ | .archive owner _ _
  | .deleteConversation owner _ => owner

/-- The row that an answer shows is the owner's. -/
def ChatReply.For (o : String) : ChatReply → Prop
  | .conversation row | .project row _ _ => row.ownerKey = o
  | _ => True

/-- A call is at work for an owner, or has answered that owner. -/
def ChatPhase.For (o : String) : ChatPhase → Prop
  | .locating owner _ _ | .readingConversation owner _ | .readingProject owner _ => owner = o
  | .writing w => w.owner = o
  | .done (.ok reply) => reply.For o
  | _ => True

def ChatStore.of (s : ChatStore) (o : String) : ChatStore where
  conversations := s.conversations.filter (·.ownerKey = o)
  projects := s.projects.filter (·.ownerKey = o)

/-! ## The statements -/

section Rows

variable {α : Type} {key : α → String} {o : String} {l : List α} {P : α → Prop} [DecidablePred P] {f : α → α}

theorem filter_update_other (hP : ∀ a, P a → key a ≠ o) (hf : ∀ a, key (f a) = key a) :
    (l.map fun a => if P a then f a else a).filter (key · = o) = l.filter (key · = o) := by
  induction l with
  | nil => rfl
  | cons a l ih =>
    by_cases h : P a
    · simp [h, hf, hP a h, ih]
    · simp [List.filter_cons, h, ih]

theorem filter_delete_other (hP : ∀ a, P a → key a ≠ o) :
    (l.filter (¬ P ·)).filter (key · = o) = l.filter (key · = o) := by
  rw [List.filter_filter]
  refine List.filter_congr fun a _ => ?_
  simpa using fun hkey h => hP a h hkey

end Rows

variable {s s' : ChatStore} {owner id now : String} {moment : ChatMoment} {ph : ChatPhase}

theorem commit_for {w : ChatWrite} (h : commit s now w = .ok (s', ph)) :
    ph.For w.owner ∧ ∀ o, w.owner ≠ o → s'.of o = s.of o := by
  cases w with
  | rename owner id name =>
    simp only [commit, renameProject, bind_ok, require_ok, pure_ok, exists_const, Prod.mk.injEq] at h
    obtain ⟨-, rfl, rfl⟩ := h
    exact ⟨rfl, fun o hne => congrArg (ChatStore.mk _) (filter_update_other (fun p hp => hp.2 ▸ hne) fun _ => rfl)⟩
  | deleteProject owner id =>
    simp only [commit, deleteProject, bind_ok, require_ok, pure_ok, exists_const, Prod.mk.injEq] at h
    obtain ⟨-, rfl, rfl⟩ := h
    exact ⟨trivial, fun o hne => congrArg₂ ChatStore.mk (filter_update_other (fun r hr => hr.1 ▸ hne) fun _ => rfl)
      (filter_delete_other fun p hp => hp.2 ▸ hne)⟩
  | move owner id target =>
    cases h
    refine ⟨rfl, fun o hne => congrArg₂ ChatStore.mk (filter_update_other (fun r hr => hr.2 ▸ hne) fun _ => rfl) ?_⟩
    split
    · rfl
    · exact filter_update_other (fun p hp => hp.2 ▸ hne) fun _ => rfl
  | deleteConversation owner id =>
    simp only [commit, deleteConversation, bind_ok, require_ok, pure_ok, exists_const, Prod.mk.injEq] at h
    obtain ⟨-, rfl, rfl⟩ := h
    exact ⟨trivial, fun o hne => congrArg (ChatStore.mk · _) (filter_delete_other fun r hr => hr.2 ▸ hne)⟩
  | _ =>
    cases h
    exact ⟨rfl, fun o hne => congrArg (ChatStore.mk · _) (filter_update_other (fun r hr => hr.2 ▸ hne) fun _ => rfl)⟩

theorem prepare_for {r : ChatRequest} (h : prepare s moment r = .ok (s', ph)) :
    ph.For r.owner ∧ ∀ o, r.owner ≠ o → s'.of o = s.of o := by
  cases r with
  | createConversation owner title =>
    simp only [prepare, createConversation, checkOwner, bind_ok, require_ok, pure_ok, exists_const, Prod.mk.injEq] at h
    obtain ⟨_, ⟨-, rfl⟩, -, rfl, rfl⟩ := h
    exact ⟨trivial, fun o (hne : strip owner ≠ o) => by simp [ChatStore.of, List.filter_append, hne]⟩
  | createProject owner name =>
    simp only [prepare, createProject, checkOwner, bind_ok, require_ok, pure_ok, exists_const, Prod.mk.injEq] at h
    obtain ⟨_, ⟨-, rfl⟩, _, -, -, rfl, rfl⟩ := h
    exact ⟨rfl, fun o (hne : strip owner ≠ o) => by simp [ChatStore.of, List.filter_append, hne]⟩
  | renameProject owner projectId name =>
    simp only [prepare, bind_ok, pure_ok, Prod.mk.injEq] at h
    obtain ⟨_, -, _, -, rfl, rfl⟩ := h
    exact ⟨rfl, fun _ _ => rfl⟩
  | moveConversation owner conversationId projectId =>
    simp only [prepare, bind_ok] at h
    obtain ⟨_, -, h⟩ := h
    split at h <;>
    · simp only [pure_ok, Prod.mk.injEq] at h
      obtain ⟨rfl, rfl⟩ := h
      exact ⟨rfl, fun _ _ => rfl⟩
  | setPinned owner conversationId pinned =>
    simp only [prepare, bind_ok, require_ok, pure_ok, exists_const, Prod.mk.injEq] at h
    obtain ⟨_, -, -, rfl, rfl⟩ := h
    exact ⟨rfl, fun _ _ => rfl⟩
  | _ =>
    simp only [prepare, bind_ok, pure_ok, Prod.mk.injEq] at h
    obtain ⟨_, -, rfl, rfl⟩ := h
    exact ⟨rfl, fun _ _ => rfl⟩

theorem ownedRow_for {row : ConversationRow} (h : ownedRow s owner id = .ok row) : row.ownerKey = owner := by
  simp only [ownedRow, bind_ok, orRaise_ok] at h
  obtain ⟨i, -, h⟩ := h
  have his : row.Is owner i := by simpa using List.find?_some h
  exact his.2

theorem ownedProject_for {row : ProjectRow} (h : ownedProject s owner id = .ok row) : row.ownerKey = owner := by
  simp only [ownedProject, bind_ok, orRaise_ok] at h
  obtain ⟨i, -, h⟩ := h
  have his : row.Is owner i := by simpa using List.find?_some h
  exact his.2

theorem chatAct_for (moment : ChatMoment) (s : ChatStore) {c : ChatCall} (h : c.phase.For c.request.owner) :
    (chatAct moment s c).2.phase.For (chatAct moment s c).2.request.owner ∧
      ∀ o, c.request.owner ≠ o → (chatAct moment s c).1.of o = s.of o := by
  obtain ⟨r, ph⟩ := c
  cases hblock : chatBlock moment s r ph with
  | error e =>
    rw [chatAct, hblock]
    exact ⟨trivial, fun _ _ => rfl⟩
  | ok x =>
    rw [chatAct, hblock]
    cases ph with
    | ready => exact prepare_for hblock
    | writing w => exact h ▸ commit_for hblock
    | done reply =>
      cases hblock
      exact ⟨h, fun _ _ => rfl⟩
    | locating owner conversationId projectId =>
      simp only [chatBlock, bind_ok, pure_ok] at hblock
      obtain ⟨_, -, rfl⟩ := hblock
      exact ⟨h, fun _ _ => rfl⟩
    | readingConversation owner id =>
      simp only [chatBlock, bind_ok, pure_ok] at hblock
      obtain ⟨_, hrow, rfl⟩ := hblock
      exact ⟨(ownedRow_for hrow).trans h, fun _ _ => rfl⟩
    | readingProject owner id =>
      simp only [chatBlock, projectReply, bind_ok, pure_ok] at hblock
      obtain ⟨_, ⟨_, hrow, rfl⟩, rfl⟩ := hblock
      exact ⟨(ownedProject_for hrow).trans h, fun _ _ => rfl⟩

/-! ## Runs -/

def AllFor : World ChatStore ChatCall → Prop := Program.Holds (fun _ => True) fun _ c => c.phase.For c.request.owner

theorem AllFor.after (w : World ChatStore ChatCall) (e : Event ChatRequest ChatMoment) (h : AllFor w) (_ : True) :
    AllFor (chatProgram.after w e) :=
  Program.Holds.after (p := chatProgram) (S := fun _ => True) (T := fun _ (c : ChatCall) => c.phase.For c.request.owner)
    (fun _ _ _ => trivial) (fun moment s _ _ hc => ⟨trivial, (chatAct_for moment s hc).1⟩)
    (fun _ _ _ _ _ _ hc => hc) h e

/-- In every run each step changes the rows of the owner of its call alone, and each call answers with the rows of
its own owner. -/
theorem owners_isolated (s : ChatStore) (events : List (Event ChatRequest ChatMoment)) :
    chatProgram.Each (fun w e => ∀ o, e.OnCall (fun _ _ c => c.request.owner ≠ o) w.calls →
      (chatProgram.after w e).shared.of o = w.shared.of o) ⟨s, []⟩ events ∧
    chatProgram.Always (fun w => ∀ c ∈ w.calls, ∀ reply, c.phase = .done (.ok reply) → reply.For c.request.owner)
      ⟨s, []⟩ events := by
  have hevery : ∀ w, chatProgram.Each (fun _ _ => True) w events := by
    induction events with
    | nil => exact fun _ => trivial
    | cons e events ih => exact fun w => ⟨trivial, ih _⟩
  constructor
  · refine Program.each_of_each AllFor.after (fun w e hw _ o hne => ?_) (.init trivial) (hevery _)
    rcases chatProgram.after_cases w e with ⟨a, rfl, hafter⟩ | ⟨i, moment, c, rfl, hget, hafter⟩ | ⟨i, moment, rfl, -, hafter⟩
    · rw [hafter]
    · rw [hafter]
      exact (chatAct_for moment _ (hw.calls c (List.mem_of_getElem? hget))).2 o (hne c hget)
    · rw [hafter]
  · refine (Program.always_of_each AllFor.after (.init trivial) (hevery _)).mono fun w hw c hc reply hdone => ?_
    have hfor := hw.calls c hc
    rw [hdone] at hfor
    exact hfor

end ThreeAgent.ChatHistory
