import FileManager.Proof.FileApi

/-!
**File requests at once: what reads, updates and deletes do when they interleave.**

A handler runs in segments between its `await`s, and the segments of other requests run in
between. Two consequences for the file routes:

* `updates_merge` — two updates of one document that both load it before either saves do not
  overwrite each other as wholes. `updateFile` sets `fileName` and `filePath` from the body and
  saves; `save()` writes only the paths the handler changed from their loaded value
  (`saveModified`), so each path ends with the value of the last save that changed it. When the
  first update renames and the second moves, the collection ends with the first's name and the
  second's path: a document that neither order of the two requests alone leaves
  (`files_refine_store`), and that neither response reports;
* `deletes_race` — two deletes of one document that both find it before either deletes it are
  both answered 200 with it: `deleteOne` of a document already gone resolves. No sequence of
  store operations answers so (`DocStore.applyAll_removed_le_one`), so these answers are those
  of no order of the two requests one at a time.

The interleavings of `updates_merge` and `deletes_race` are followed through `get`:
`step_arrive_file` and `step_resume_file` say what a step does to the entry of the request it runs
and that it keeps every other entry.
-/

namespace FileManager

section Steps

variable {server : Server}

/-- The arrival of a request whose first segment is known. -/
theorem step_arrive_file {P : Platform} (fresh : server.nextRequestId ∉ Table.keys server.threads) (now : Nat)
    {request : Request} {world : World} {outcome : Outcome Wait}
    (entering : enter P server.world now request = (world, outcome)) (handled : outcome ≠ .unhandled) :
    ∃ server', step P server (.arrive request now) = some server' ∧ server'.world = world ∧
      server'.nextRequestId = server.nextRequestId + 1 ∧
      Table.get server'.threads server.nextRequestId =
        some (server.nextRequestId, ⟨request, outcome⟩) ∧
      ∀ other ≠ server.nextRequestId, Table.get server'.threads other = Table.get server.threads other := by
  obtain ⟨server', stepped, entered, moved, found, others⟩ :=
    step_arrive_get fresh (by rw [entering]; exact handled)
  rw [entering] at entered found
  exact ⟨server', stepped, entered, moved, found, others⟩

/-- The resume of a waiting file request whose next segment is known. -/
theorem step_resume_file (P : Platform) {id : Nat} {request : Request} {wait : FileWait} {env : Env}
    {world : World} {outcome : Outcome FileWait}
    (found : Table.get server.threads id = some (id, ⟨request, .await (.file wait)⟩))
    (resuming : fileResume P server.world env wait = (world, outcome)) :
    ∃ server', step P server (.resume id env) = some server' ∧ server'.world = world ∧
      server'.nextRequestId = server.nextRequestId ∧
      Table.get server'.threads id = some (id, ⟨request, outcome.map .file⟩) ∧
      ∀ other ≠ id, Table.get server'.threads other = Table.get server.threads other := by
  obtain ⟨server', stepped, resumed, moved, entry, others⟩ := step_resume_get found env
  rw [resumeWait_file, resuming] at resumed entry
  exact ⟨server', stepped, resumed, moved, entry, others⟩

end Steps

/-- **Two interleaved updates merge path by path.** Two well-formed `PUT /files/:id` of one
document, with verified tokens, arrive; both load the document; then both save. Both are answered
200 with the document as their own handler edited it, and the collection keeps, for each of the
two paths, the second update's value unless that update kept the loaded value, and the first's
otherwise. -/
theorem updates_merge {P : Platform} (joi : JoiSpec P.validateSchema) {server : Server}
    (keyed : ThreadsKeyed server) (distinct : (Table.keys server.world.files).Nodup) {id : ObjectId}
    {loaded : FileDoc} (found : Table.get server.world.files id = some (id, loaded))
    {first second : Option String} {userA userB : ObjectId}
    (verifiedA : authenticateToken P first = .ok userA)
    (verifiedB : authenticateToken P second = .ok userB) {nameA pathA nameB pathB : String}
    (formedA : (FileCall.update id nameA pathA).WellFormed)
    (formedB : (FileCall.update id nameB pathB).WellFormed) (nowA nowB : Nat)
    {findA findB saveA saveB : Env} (findAResolved : findA.settle = .resolve)
    (findBResolved : findB.settle = .resolve) (saveAResolved : saveA.settle = .resolve)
    (saveBResolved : saveB.settle = .resolve) :
    ∃ final, Transition.run (step P) server
        [.arrive ((FileCall.update id nameA pathA).request first) nowA,
          .arrive ((FileCall.update id nameB pathB).request second) nowB,
          .resume server.nextRequestId findA, .resume (server.nextRequestId + 1) findB,
          .resume server.nextRequestId saveA, .resume (server.nextRequestId + 1) saveB] = some final ∧
      Table.get final.world.files id = some (id, { loaded with
        fileName := if nameB = loaded.fileName then nameA else nameB
        filePath := if pathB = loaded.filePath then pathA else pathB }) ∧
      final.response server.nextRequestId =
        some ⟨200, .file .fileUpdated (id, { loaded with fileName := nameA, filePath := pathA })⟩ ∧
      final.response (server.nextRequestId + 1) =
        some ⟨200, .file .fileUpdated (id, { loaded with fileName := nameB, filePath := pathB })⟩ := by
  have apart : server.nextRequestId ≠ server.nextRequestId + 1 := Nat.ne_of_lt (Nat.lt_succ_self _)
  -- both requests arrive and wait at `File.findById`
  obtain ⟨arrivedA, stepA, worldA, nextA, entryA, othersA⟩ :=
    step_arrive_file keyed.fresh nowA (enter_updateFile verifiedA joi formedA) (by simp)
  have freshB : arrivedA.nextRequestId ∉ Table.keys arrivedA.threads :=
    (threadsKeyed_step keyed stepA).fresh
  obtain ⟨arrivedB, stepB, worldB, nextB, entryB, othersB⟩ :=
    step_arrive_file freshB nowB (enter_updateFile verifiedB joi formedB) (by simp)
  rw [nextA] at entryB othersB
  -- both load the document as it is
  have foundB : Table.get arrivedB.world.files id = some (id, loaded) := by
    rw [worldB, worldA]
    exact found
  obtain ⟨loadedA, stepC, worldC, _, entryC, othersC⟩ :=
    step_resume_file P ((othersB _ apart).trans entryA)
      (fileResume_updateFinding_found findAResolved foundB nameA pathA)
  have foundC : Table.get loadedA.world.files id = some (id, loaded) := by
    rw [worldC]
    exact foundB
  obtain ⟨loadedB, stepD, worldD, _, entryD, othersD⟩ :=
    step_resume_file P ((othersC _ apart.symm).trans entryB)
      (fileResume_updateFinding_found findBResolved foundC nameB pathB)
  have loadedWorld : loadedB.world = server.world := by rw [worldD, worldC, worldB, worldA]
  -- the first save writes both of its paths onto the document as loaded
  obtain ⟨savedA, stepE, worldE, _, entryE, othersE⟩ :=
    step_resume_file P ((othersD _ apart).trans entryC)
      (fileResume_updateSaving_loaded saveAResolved (loadedWorld ▸ distinct) (loadedWorld ▸ found)
        nameA pathA)
  -- the second writes the paths its handler changed onto the document the first saved
  have distinctE : (Table.keys savedA.world.files).Nodup := by
    rw [worldE, Table.keys_set, loadedWorld]
    exact distinct
  have present : id ∈ Table.keys loadedB.world.files := by
    rw [loadedWorld]
    exact List.mem_map_of_mem (Table.get_eq_some found).1
  have foundE : Table.get savedA.world.files id =
      some (id, { loaded with fileName := nameA, filePath := pathA }) := by
    rw [worldE]
    exact Table.get_set_of_mem _ present
  obtain ⟨savedB, stepF, worldF, _, entryF, othersF⟩ :=
    step_resume_file P ((othersE _ apart.symm).trans entryD)
      (fileResume_updateSaving saveBResolved distinctE foundE)
  have presentE : id ∈ Table.keys savedA.world.files := by
    rw [worldE, Table.keys_set]
    exact present
  refine ⟨savedB, ?_, ?_, Server.response_of_get ((othersF _ apart).trans entryE),
    Server.response_of_get entryF⟩
  · simp only [Transition.run_cons, stepA, stepB, stepC, stepD, stepE, stepF, Option.bind_some,
      Transition.run_nil]
  · rw [worldF]
    exact Table.get_set_of_mem _ presentE

/-- **Two interleaved deletes both report the deletion.** Two `DELETE /files/:id` of one
document whose file `unlinkSync` can remove, with verified tokens, arrive; both find the document;
then both delete it. Both are answered 200 with the document, and the document is gone. No order
of the two requests one at a time answers so: in any sequence of operations on the store, at most
one answers that it removed the document. -/
theorem deletes_race {P : Platform} {server : Server} (keyed : ThreadsKeyed server)
    (valid : (storeOf server.world).Valid) {id : ObjectId} {file : FileDoc}
    (found : Table.get server.world.files id = some (id, file))
    (unlinkable : P.Unlinkable file.filePath)
    {first second : Option String} {userA userB : ObjectId}
    (verifiedA : authenticateToken P first = .ok userA)
    (verifiedB : authenticateToken P second = .ok userB) (nowA nowB : Nat)
    {findA findB deleteA deleteB : Env} (findAResolved : findA.settle = .resolve)
    (findBResolved : findB.settle = .resolve) (deleteAResolved : deleteA.settle = .resolve)
    (deleteBResolved : deleteB.settle = .resolve) :
    ∃ final, Transition.run (step P) server
        [.arrive ((FileCall.remove id).request first) nowA,
          .arrive ((FileCall.remove id).request second) nowB,
          .resume server.nextRequestId findA, .resume (server.nextRequestId + 1) findB,
          .resume server.nextRequestId deleteA, .resume (server.nextRequestId + 1) deleteB] =
        some final ∧
      Table.get final.world.files id = none ∧
      final.response server.nextRequestId = some (FileAnswer.removed (id, file)).response ∧
      final.response (server.nextRequestId + 1) = some (FileAnswer.removed (id, file)).response ∧
      ∀ ops : List FileOp, (((storeOf server.world).applyAll ops).2.map FileAnswer.response).count
        (FileAnswer.removed (id, file)).response ≤ 1 := by
  have apart : server.nextRequestId ≠ server.nextRequestId + 1 := Nat.ne_of_lt (Nat.lt_succ_self _)
  -- both requests arrive and wait at `File.findById`
  obtain ⟨arrivedA, stepA, worldA, nextA, entryA, othersA⟩ :=
    step_arrive_file keyed.fresh nowA (enter_deleteFile verifiedA id) (by simp)
  have freshB : arrivedA.nextRequestId ∉ Table.keys arrivedA.threads :=
    (threadsKeyed_step keyed stepA).fresh
  obtain ⟨arrivedB, stepB, worldB, nextB, entryB, othersB⟩ :=
    step_arrive_file freshB nowB (enter_deleteFile verifiedB id) (by simp)
  rw [nextA] at entryB othersB
  -- both find the document; each unlinks its file, the second where none is left
  have foundB : Table.get arrivedB.world.files id = some (id, file) := by
    rw [worldB, worldA]
    exact found
  obtain ⟨unlinkedA, stepC, worldC, _, entryC, othersC⟩ :=
    step_resume_file P ((othersB _ apart).trans entryA)
      (fileResume_deleteFinding_found findAResolved foundB unlinkable)
  have foundC : Table.get unlinkedA.world.files id = some (id, file) := by
    rw [worldC]
    exact foundB
  obtain ⟨unlinkedB, stepD, _, _, entryD, othersD⟩ :=
    step_resume_file P ((othersC _ apart.symm).trans entryB)
      (fileResume_deleteFinding_found findBResolved foundC unlinkable)
  -- both delete it, and `deleteOne` of a document already gone resolves as well
  obtain ⟨deletedA, stepE, _, _, entryE, othersE⟩ :=
    step_resume_file P ((othersD _ apart).trans entryC)
      (fileResume_deleteDeleting deleteAResolved id file)
  obtain ⟨deletedB, stepF, worldF, _, entryF, othersF⟩ :=
    step_resume_file P ((othersE _ apart.symm).trans entryD)
      (fileResume_deleteDeleting deleteBResolved id file)
  refine ⟨deletedB, ?_, ?_, Server.response_of_get ((othersF _ apart).trans entryE),
    Server.response_of_get entryF, fun ops => ?_⟩
  · simp only [Transition.run_cons, stepA, stepB, stepC, stepD, stepE, stepF, Option.bind_some,
      Transition.run_nil]
  · rw [worldF]
    exact Table.get_eq_none.mpr fun present => (Table.mem_keys_erase.mp present).2 rfl
  · -- the store's answers are told apart by their responses
    rw [List.count_map_of_injective _ _ FileAnswer.response_injective]
    exact DocStore.applyAll_removed_le_one valid ops (id, file)

/-- A server with one document, `a.txt`, and nothing in flight. -/
def oneDocument : Server :=
  ⟨{ (initial fun _ => none).world with
      files := [(0, ⟨"a.txt", "user_files/1-a.txt", 1, none⟩)]
      nextObjectId := 1 }, [], 0⟩

theorem oneDocument_keyed : ThreadsKeyed oneDocument :=
  ⟨List.nodup_nil, fun _ member => absurd member List.not_mem_nil⟩

/-- User 0 renames `a.txt` to `b.txt` while user 1 moves it: the collection ends with the first's
name and the second's path. -/
theorem updates_merge_standIn :
    ∃ final, Transition.run (step standIn) oneDocument
        [.arrive ((FileCall.update 0 "b.txt" "user_files/1-a.txt").request (bearer 0)) 2,
          .arrive ((FileCall.update 0 "a.txt" "moved/a.txt").request (bearer 1)) 2,
          .resume 0 ⟨.resolve, 3, ""⟩, .resume 1 ⟨.resolve, 3, ""⟩,
          .resume 0 ⟨.resolve, 4, ""⟩, .resume 1 ⟨.resolve, 4, ""⟩] = some final ∧
      Table.get final.world.files 0 = some (0, ⟨"b.txt", "moved/a.txt", 1, none⟩) ∧
      final.response 0 =
        some ⟨200, .file .fileUpdated (0, ⟨"b.txt", "user_files/1-a.txt", 1, none⟩)⟩ ∧
      final.response 1 = some ⟨200, .file .fileUpdated (0, ⟨"a.txt", "moved/a.txt", 1, none⟩)⟩ := by
  refine updates_merge standIn_joi oneDocument_keyed (by decide) rfl (authenticateToken_standIn 0) (authenticateToken_standIn 1)
    (by decide : (FileCall.update 0 "b.txt" "user_files/1-a.txt").WellFormed)
    (by decide : (FileCall.update 0 "a.txt" "moved/a.txt").WellFormed) 2 2 ?_ ?_ ?_ ?_ <;> rfl

/-- Users 0 and 1 delete `a.txt` at once: both are told it was deleted. -/
theorem deletes_race_standIn :
    standIn.Unlinkable "user_files/1-a.txt" ∧
    ∃ final, Transition.run (step standIn) oneDocument
        [.arrive ((FileCall.remove 0).request (bearer 0)) 2,
          .arrive ((FileCall.remove 0).request (bearer 1)) 2,
          .resume 0 ⟨.resolve, 3, ""⟩, .resume 1 ⟨.resolve, 3, ""⟩,
          .resume 0 ⟨.resolve, 4, ""⟩, .resume 1 ⟨.resolve, 4, ""⟩] = some final ∧
      Table.get final.world.files 0 = none ∧
      final.response 0 = some (FileAnswer.removed (0, ⟨"a.txt", "user_files/1-a.txt", 1, none⟩)).response ∧
      final.response 1 = some (FileAnswer.removed (0, ⟨"a.txt", "user_files/1-a.txt", 1, none⟩)).response ∧
      ∀ ops : List FileOp, (((storeOf oneDocument.world).applyAll ops).2.map FileAnswer.response).count
        (FileAnswer.removed (0, ⟨"a.txt", "user_files/1-a.txt", 1, none⟩)).response ≤ 1 := by
  have valid : (storeOf oneDocument.world).Valid := ⟨by decide, by decide⟩
  have unlinkable : standIn.Unlinkable "user_files/1-a.txt" := by decide
  refine ⟨unlinkable, ?_⟩
  refine deletes_race oneDocument_keyed valid rfl unlinkable (authenticateToken_standIn 0)
    (authenticateToken_standIn 1) 2 2 ?_ ?_ ?_ ?_ <;> rfl

end FileManager
