import FileManager.Proof.FilePaths

/-!
**No `_id` is given twice, and a deleted document stays deleted.**

`new File(fileData)` in `createFile` and `new User(...)` in `register` each draw a fresh ObjectId,
saved with the document after an `await`. `deleteFile` removes a document by its id; an
`updateFile` that loaded the document before the delete saves nothing after it, since `save()` of
a document that is gone rejects with `DocumentNotFoundError`. Over every interleaving of every
request:

* `idsInUse` — the ids of the documents and the users, and those drawn for saves in flight;
* `idsInUse_step` — a step keeps or drops ids in use, or draws the next one (`IdsChange`);
* `IdsFresh` — the ids in use do not repeat and are below the next id, in every reachable state;
* `objectIds_never_reused` — from any reachable state on, an id drawn before and no longer in use
  (a deleted document's, or one whose save failed) is never in use again, whatever runs next; no
  two documents or users share an id.
-/

namespace FileManager

/-- The `_id` a request holds while its new document or user waits at `save()`. -/
def drawnId : Outcome Wait → Option ObjectId
  | .await (.file (.createSaving id _)) => some id
  | .await (.user (.registerSaving id _)) => some id
  | _ => none

/-- The ids of the documents and users of a world. -/
def storedIds (world : World) : List ObjectId :=
  Table.keys world.files ++ Table.keys world.users

/-- Every `_id` in use: the documents', the users', and those drawn for saves in flight. -/
def idsInUse (server : Server) : List ObjectId :=
  storedIds server.world ++ Table.collect (fun thread : Thread => drawnId thread.progress) server.threads

/-- How a step may change the ids in use, from `ids` and the next id `next` to `ids'` and
`next'`: it keeps or drops some, or draws `next`. -/
def IdsChange (ids ids' : List ObjectId) (next next' : Nat) : Prop :=
  (ids'.Subperm ids ∧ next' = next) ∨ (ids'.Subperm (ids ++ [next]) ∧ next' = next + 1)

/-- A segment that leaves the documents and users as they were and ends at no `save()` keeps or
drops ids. -/
theorem idsChange_of_same {world world' : World} {old progress : Outcome Wait}
    (sameIds : storedIds world' = storedIds world) (notDrawn : drawnId progress = none)
    (sameNext : world'.nextObjectId = world.nextObjectId) :
    IdsChange (storedIds world ++ (drawnId old).toList) (storedIds world' ++ (drawnId progress).toList)
      world.nextObjectId world'.nextObjectId := by
  rw [sameIds, notDrawn, sameNext]
  exact .inl ⟨((List.append_sublist_append_left _).mpr (List.nil_sublist _)).subperm, rfl⟩

section Segments

variable (P : Platform) (world : World) (now : Nat) (env : Env)

/-- A first segment waits at no `save()`. -/
theorem enter_not_drawn (request : Request) : drawnId (enter P world now request).2 = none := by
  cases entered : (enter P world now request).2 with
  | await wait =>
    rcases enter_eq_await entered with
      ⟨_, _, _, _, _, rfl, _⟩ | ⟨_, _, rfl⟩ | ⟨_, _, _, rfl⟩ | ⟨_, _, _, _, _, _, rfl⟩ |
      ⟨_, _, _, rfl⟩ | ⟨_, _, _, _, rfl⟩ | ⟨_, _, _, rfl⟩ | ⟨_, _, rfl, _⟩ <;> rfl
  | respond response => rfl
  | unhandled => rfl

theorem storedIds_enter (request : Request) :
    storedIds (enter P world now request).1 = storedIds world := by
  simp [storedIds]

/-- **What a resumed segment does to the ids.** It keeps them, drops the one its failed save
held, moves the id of a saved document or user from the save to the collection, drops the id of
a deleted document, or draws the next id for a new document or user. -/
theorem resumeWait_ids (wait : Wait) :
    IdsChange (storedIds world ++ (drawnId (.await wait)).toList)
      (storedIds (resumeWait P world env wait).1 ++ (drawnId (resumeWait P world env wait).2).toList)
      world.nextObjectId (resumeWait P world env wait).1.nextObjectId := by
  cases wait with
  | file wait =>
    rw [resumeWait_file]
    rcases fileResume_cases P world env wait with
      ⟨response, same⟩ | ⟨fileName, filePath, rfl, _, _, same⟩ | ⟨id, file, rfl, _, same⟩ |
      ⟨_, _, _, objectId, loaded, rfl, _, same⟩ | ⟨objectId, loaded, edited, _, rfl, _, _, same⟩ |
      ⟨_, objectId, file, rfl, _, _, _, same⟩ | ⟨objectId, file, rfl, _, same⟩
    all_goals rw [same]
    · exact idsChange_of_same rfl rfl rfl
    · -- `new File(fileData)` draws the next id
      refine .inr ⟨?_, rfl⟩
      show (storedIds world ++ [world.nextObjectId]).Subperm (storedIds world ++ [] ++ [world.nextObjectId])
      rw [List.append_nil]
    · -- the saved document takes the id its save held
      refine .inl ⟨List.Perm.subperm ?_, rfl⟩
      show (Table.keys (Table.insert world.files id file) ++ Table.keys world.users ++ []).Perm
        (Table.keys world.files ++ Table.keys world.users ++ [id])
      rw [Table.keys_insert, List.append_nil, List.append_assoc, List.append_assoc]
      exact (List.perm_append_comm.append_left _)
    · exact idsChange_of_same rfl rfl rfl
    · exact idsChange_of_same (by simp [storedIds]) rfl rfl
    · exact idsChange_of_same rfl rfl rfl
    · -- `deleteOne` drops the document's id
      refine .inl ⟨List.Sublist.subperm ?_, rfl⟩
      show (Table.keys (Table.erase world.files objectId) ++ Table.keys world.users ++ []).Sublist
        (Table.keys world.files ++ Table.keys world.users ++ [])
      exact ((List.filter_sublist.map _).append_right _).append_right _
  | user wait =>
    rw [resumeWait_user]
    rcases userResume_cases P world env wait with
      ⟨response, same⟩ | ⟨_, _, _, rfl, _, _, same⟩ | ⟨_, _, _, rfl, same⟩ |
      ⟨username, email, password, salt, rfl, same⟩ | ⟨id, user, rfl, _, _, same⟩ |
      ⟨_, _, _, rfl, _, _, same⟩
    all_goals rw [same]
    · exact idsChange_of_same rfl rfl rfl
    · exact idsChange_of_same rfl rfl rfl
    · exact idsChange_of_same rfl rfl rfl
    · -- `new User(...)` draws the next id
      refine .inr ⟨?_, rfl⟩
      show (storedIds world ++ [world.nextObjectId]).Subperm (storedIds world ++ [] ++ [world.nextObjectId])
      rw [List.append_nil]
    · -- the saved user takes the id its save held
      refine .inl ⟨List.Perm.subperm ?_, rfl⟩
      show (Table.keys world.files ++ Table.keys (Table.insert world.users id user) ++ []).Perm
        (Table.keys world.files ++ Table.keys world.users ++ [id])
      rw [Table.keys_insert, List.append_nil, List.append_assoc]
    · exact idsChange_of_same rfl rfl rfl
  | upload wait =>
    rw [resumeWait_upload]
    exact idsChange_of_same (by simp [storedIds]) (by cases (uploadResume world env wait).2 <;> rfl)
      (uploadResume_nextObjectId world env wait)

end Segments

section Steps

variable {P : Platform} {server server' : Server}

/-- **What a step does to the ids in use**: it keeps or drops some, or draws the next one. -/
theorem idsInUse_step {label : Label} (keyed : ThreadsKeyed server)
    (stepped : step P server label = some server') :
    IdsChange (idsInUse server) (idsInUse server') server.world.nextObjectId
      server'.world.nextObjectId := by
  cases label with
  | arrive request now =>
    rw [step_arrive] at stepped
    cases stepped
    -- the new request waits at no `save()`, and a restart drops the saves in flight
    refine .inl ⟨List.Sublist.subperm ?_, enter_nextObjectId P server.world now request⟩
    rw [idsInUse, idsInUse, Table.collect_insert, enter_not_drawn, storedIds_enter,
      Option.toList_none, List.append_nil]
    exact (collect_afterEnter_sublist drawnId rfl _ _).append_left _
  | resume id env =>
    obtain ⟨request, wait, found, rfl⟩ := step_resume_eq_some stepped
    rcases resumeWait_ids P server.world env wait with ⟨kept, sameNext⟩ | ⟨drew, next⟩
    · refine .inl ⟨?_, sameNext⟩
      have kept' : (storedIds (resumeWait P server.world env wait).1 ++
          (drawnId (resumeWait P server.world env wait).2).toList).Subperm
          (storedIds server.world ++ (drawnId (.await wait)).toList ++ []) := by
        rw [List.append_nil]
        exact kept
      have lifted := Table.collect_set_subperm (fun thread : Thread => drawnId thread.progress)
        ⟨request, (resumeWait P server.world env wait).2⟩ keyed.distinct found kept'
      rw [List.append_nil] at lifted
      exact lifted
    · exact .inr ⟨Table.collect_set_subperm (fun thread : Thread => drawnId thread.progress)
        ⟨request, (resumeWait P server.world env wait).2⟩ keyed.distinct found drew, next⟩
  | attempt jobId now =>
    obtain ⟨world, attempted, rfl⟩ := step_attempt_eq_some stepped
    obtain ⟨disk, jobs, rfl⟩ := attemptJob_world server.world now attempted
    exact .inl ⟨List.Subperm.refl _, rfl⟩

end Steps

/-- The ids in use do not repeat and are below the next id. -/
structure IdsFresh (server : Server) : Prop where
  keyed : ThreadsKeyed server
  distinct : (idsInUse server).Nodup
  below : ∀ id ∈ idsInUse server, id < server.world.nextObjectId

section Fresh

variable {P : Platform} {server server' : Server}

theorem idsFresh_initial (disk : Disk) : IdsFresh (initial disk) where
  keyed := threadsKeyed_initial
  distinct := by simp [idsInUse, storedIds, initial, Table.keys, Table.collect]
  below := fun _ member => by simp [idsInUse, storedIds, initial, Table.keys, Table.collect] at member

/-- A change of the ids in use keeps them distinct and below the next id, and keeps an id that
was drawn and is unused so. -/
theorem IdsChange.keeps {ids ids' : List ObjectId} {next next' : Nat} (change : IdsChange ids ids' next next')
    (distinct : ids.Nodup) (below : ∀ id ∈ ids, id < next) :
    ids'.Nodup ∧ (∀ id ∈ ids', id < next') ∧ ∀ id, id < next → id ∉ ids → id < next' ∧ id ∉ ids' := by
  rcases change with ⟨⟨ids'', perm, sub⟩, rfl⟩ | ⟨⟨ids'', perm, sub⟩, rfl⟩
  · refine ⟨perm.nodup_iff.mp (distinct.sublist sub), fun id member => ?_, ?_⟩
    · exact below id (sub.subset (perm.symm.subset member))
    · intro id drawn unused
      exact ⟨drawn, fun member => unused (sub.subset (perm.symm.subset member))⟩
  · -- the id drawn is new
    have fresh : (ids ++ [next]).Nodup :=
      List.nodup_append.mpr ⟨distinct, List.nodup_singleton _, fun id member _ inNew same =>
        Nat.lt_irrefl next ((same.trans (List.mem_singleton.mp inNew)) ▸ below id member)⟩
    refine ⟨perm.nodup_iff.mp (fresh.sublist sub), fun id member => ?_, ?_⟩
    · rcases List.mem_append.mp (sub.subset (perm.symm.subset member)) with old | new
      · exact Nat.lt_succ_of_lt (below id old)
      · rw [List.mem_singleton.mp new]
        exact Nat.lt_succ_self next
    · intro id drawn unused
      refine ⟨Nat.lt_succ_of_lt drawn, fun member => ?_⟩
      rcases List.mem_append.mp (sub.subset (perm.symm.subset member)) with old | new
      · exact unused old
      · exact Nat.lt_irrefl next (List.mem_singleton.mp new ▸ drawn)

theorem idsFresh_step {label : Label} (fresh : IdsFresh server)
    (stepped : step P server label = some server') : IdsFresh server' := by
  obtain ⟨distinct, below, _⟩ := (idsInUse_step fresh.keyed stepped).keeps fresh.distinct fresh.below
  exact ⟨threadsKeyed_step fresh.keyed stepped, distinct, below⟩

theorem idsFresh_reachable {disk : Disk}
    (reachable : Transition.Reachable (step P) (initial disk) server) : IdsFresh server :=
  Transition.reachable_invariant IdsFresh (idsFresh_initial disk)
    (fun _ _ _ fresh stepped => idsFresh_step fresh stepped) reachable

end Fresh

/-- **No `_id` is given twice.** From any reachable state on, whatever requests arrive and however
their segments interleave, an id that was drawn and is no longer in use (the id of a deleted
document, or one whose save failed) is never in use again: no document or user gets it and no
save holds it, so an `updateFile` that loaded a document before it was deleted cannot bring it
back. And the ids in use never repeat: no two documents or users share one. -/
theorem objectIds_never_reused {P : Platform} {disk : Disk} {server final : Server}
    {labels : List Label} {id : ObjectId}
    (reachable : Transition.Reachable (step P) (initial disk) server)
    (drawn : id < server.world.nextObjectId) (unused : id ∉ idsInUse server)
    (ran : Transition.run (step P) server labels = some final) :
    (idsInUse final).Nodup ∧ id ∉ idsInUse final := by
  have kept := Transition.run_invariant (fun _ => True)
    (fun server : Server => IdsFresh server ∧ id < server.world.nextObjectId ∧ id ∉ idsInUse server)
    (fun _ _ _ _ holds stepped => by
      obtain ⟨fresh, drawn, unused⟩ := holds
      obtain ⟨_, _, stays⟩ := (idsInUse_step fresh.keyed stepped).keeps fresh.distinct fresh.below
      exact ⟨idsFresh_step fresh stepped, stays id drawn unused⟩)
    labels server final (fun _ _ => trivial) ⟨idsFresh_reachable reachable, drawn, unused⟩ ran
  exact ⟨kept.1.distinct, kept.2.2⟩

/-- After `createThenDelete`, an `updateFile` of the deleted document, one request at a time. -/
def updateDeleted : List Label :=
  [.arrive (.updateFile (bearer 0) "0" [("fileName", .string "c.txt"), ("filePath", .string "-")]) 4,
    .resume 3 ⟨.resolve, 4, ""⟩]

theorem objectIds_never_reused_standIn :
    ∃ server final, Transition.Reachable (step standIn) (initial fun _ => none) server ∧
      0 < server.world.nextObjectId ∧ 0 ∉ idsInUse server ∧
      Transition.run (step standIn) server updateDeleted = some final ∧ 0 ∉ idsInUse final := by
  obtain ⟨server, ran⟩ := Option.isSome_iff_exists.mp (by decide :
    (Transition.run (step standIn) (initial fun _ => none) createThenDelete).isSome)
  have deleted : (Transition.run (step standIn) (initial fun _ => none) createThenDelete).map
      (fun server : Server => decide (0 < server.world.nextObjectId) && decide (0 ∉ idsInUse server)) =
      some true := by
    decide
  rw [ran] at deleted
  simp only [Option.map_some, Option.some.injEq, Bool.and_eq_true, decide_eq_true_eq] at deleted
  have whole : (Transition.run (step standIn) (initial fun _ => none)
      (createThenDelete ++ updateDeleted)).isSome := by
    decide
  simp only [Transition.run_append, ran, Option.bind_some] at whole
  obtain ⟨final, ranOn⟩ := Option.isSome_iff_exists.mp whole
  exact ⟨server, final, ⟨createThenDelete, ran⟩, deleted.1, deleted.2, ranOn,
    (objectIds_never_reused ⟨createThenDelete, ran⟩ deleted.1 deleted.2 ranOn).2⟩

end FileManager
