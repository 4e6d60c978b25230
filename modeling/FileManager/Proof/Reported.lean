import FileManager.Proof.Authentication
import FileManager.Proof.FileApi

/-!
**The File collection is what the answers have said.**

`createFile` inserts its document and answers `201` with it in one segment, the one after
`await newFile.save()`; `deleteFile` removes the document and answers with it in one segment, the
one after `await file.deleteOne()`. No other segment inserts or removes a document, and no other
answer reports one created or deleted. Over every run of the whole server, however requests of
every route interleave with each other and with the queue:

* `store_reported` — a document is in the File collection exactly when an answer has reported it
  created and none has reported it deleted: no document without its `201`, none lost after its
  `201` but by a `deleteFile`'s answer, and none back after that answer;
* `read_after_create`, `read_after_delete` — what a client then reads: a `GET /files/:id` with a
  verified token, served from any reachable state, answers `200` with a document reported created
  and not deleted, and `404` for one reported deleted (`run_readFileById`).

The argument is on `StoreView`, the ids that the collection, the answers and the waiting requests
hold. Every step of the server moves the view as `StoreView.Step` says (`storeView_step`), and
every such move keeps `StoreView.Consistent` (`StoreView.Step.keeps`). Two concurrent deletes of
one document are both answered `200`, so an id may be reported deleted twice.
-/

namespace FileManager

/-! ### What the answers report -/

/-- The document `201 { message: fileUploadSuccess, file }` reports created. -/
def Response.created (response : Response) : Option ObjectId :=
  match response.payload with
  | .file .fileUploadSuccess file => some file.1
  | _ => none

/-- The document `{ file, message: fileDeleted }` reports deleted. -/
def Response.deleted (response : Response) : Option ObjectId :=
  match response.payload with
  | .file .fileDeleted file => some file.1
  | _ => none

/-- What a request's answer reports through `report`, once it has one. -/
def answerReport {α : Type} (report : Response → Option ObjectId) : Outcome α → Option ObjectId
  | .respond response => report response
  | _ => none

/-- The id of the new document `createFile` holds at `await newFile.save()`. -/
def creatingId : Outcome Wait → Option ObjectId
  | .await (.file (.createSaving id _)) => some id
  | _ => none

/-- The id of the document `deleteFile` holds at `await file.deleteOne()`. -/
def deletingId : Outcome Wait → Option ObjectId
  | .await (.file (.deleteDeleting id _)) => some id
  | _ => none

/-- The ids of the documents the answers have reported created, in order of arrival. -/
def createdIds (server : Server) : List ObjectId :=
  Table.collect (fun thread : Thread => answerReport Response.created thread.progress) server.threads

/-- The ids of the documents the answers have reported deleted, in order of arrival. -/
def deletedIds (server : Server) : List ObjectId :=
  Table.collect (fun thread : Thread => answerReport Response.deleted thread.progress) server.threads

theorem answerReport_of_hidden {α : Type} {report : Response → Option ObjectId}
    (silent : ∀ response : Response, response.payload.showsFiles = false → report response = none)
    {outcome : Outcome α} (hidden : filesShown outcome = false) : answerReport report outcome = none := by
  cases outcome with
  | respond response => exact silent response hidden
  | await wait => rfl
  | unhandled => rfl

theorem Response.created_of_hidden (response : Response) (hidden : response.payload.showsFiles = false) :
    response.created = none := by
  unfold Response.created
  split
  · rename_i _ shape
    rw [shape] at hidden
    cases hidden
  · rfl

theorem Response.deleted_of_hidden (response : Response) (hidden : response.payload.showsFiles = false) :
    response.deleted = none := by
  unfold Response.deleted
  split
  · rename_i _ shape
    rw [shape] at hidden
    cases hidden
  · rfl

@[simp] theorem answerReport_map {α β : Type} (report : Response → Option ObjectId) (f : α → β)
    (outcome : Outcome α) : answerReport report (outcome.map f) = answerReport report outcome := by
  cases outcome <;> rfl

@[simp] theorem filesShown_map {α β : Type} (f : α → β) (outcome : Outcome α) :
    filesShown (outcome.map f) = filesShown outcome := by
  cases outcome <;> rfl

@[simp] theorem creatingId_map_user (outcome : Outcome UserWait) :
    creatingId (outcome.map Wait.user) = none := by
  cases outcome <;> rfl

@[simp] theorem deletingId_map_user (outcome : Outcome UserWait) :
    deletingId (outcome.map Wait.user) = none := by
  cases outcome <;> rfl

@[simp] theorem creatingId_map_upload (outcome : Outcome UploadWait) :
    creatingId (outcome.map Wait.upload) = none := by
  cases outcome <;> rfl

@[simp] theorem deletingId_map_upload (outcome : Outcome UploadWait) :
    deletingId (outcome.map Wait.upload) = none := by
  cases outcome <;> rfl

/-! ### The view of the store -/

/-- The ids that the File collection, the answers and the waiting requests hold. -/
structure StoreView where
  /-- the ids of the File collection -/
  stored : List ObjectId
  /-- the ids the answers have reported created -/
  created : List ObjectId
  /-- the ids the answers have reported deleted -/
  deleted : List ObjectId
  /-- the ids `createFile` holds at `await newFile.save()` -/
  creating : List ObjectId
  /-- the ids `deleteFile` holds at `await file.deleteOne()` -/
  deleting : List ObjectId
  /-- the next ObjectId to be drawn -/
  next : Nat

/-- **What the answers say agrees with the collection**, with what that rests on: a document
being deleted, or reported deleted, was reported created; the id of a document being saved has not
been reported yet, and no two saves hold one id; the ids drawn are below the counter. -/
structure StoreView.Consistent (view : StoreView) : Prop where
  agree : ∀ id, id ∈ view.stored ↔ id ∈ view.created ∧ id ∉ view.deleted
  deletedCreated : ∀ id ∈ view.deleted, id ∈ view.created
  deletingCreated : ∀ id ∈ view.deleting, id ∈ view.created
  creatingFresh : ∀ id ∈ view.creating, id ∉ view.created
  creatingDistinct : view.creating.Nodup
  createdBelow : ∀ id ∈ view.created, id < view.next
  creatingBelow : ∀ id ∈ view.creating, id < view.next

/-- **How one step can move the view.** -/
inductive StoreView.Step (view : StoreView) : StoreView → Prop
  /-- Nothing is stored, drawn or reported; a request may stop waiting at a save or a delete,
  and a user's id may be drawn. -/
  | quiet {view' : StoreView} (stored : ∀ id, id ∈ view'.stored ↔ id ∈ view.stored)
      (created : ∀ id, id ∈ view'.created ↔ id ∈ view.created)
      (deleted : ∀ id, id ∈ view'.deleted ↔ id ∈ view.deleted)
      (creating : view'.creating.Subperm view.creating)
      (deleting : ∀ id ∈ view'.deleting, id ∈ view.deleting) (next : view.next ≤ view'.next) :
      view.Step view'
  /-- `new File(fileData)` draws the next id, and the request waits at the save with it. -/
  | draw {view' : StoreView} (stored : ∀ id, id ∈ view'.stored ↔ id ∈ view.stored)
      (created : ∀ id, id ∈ view'.created ↔ id ∈ view.created)
      (deleted : ∀ id, id ∈ view'.deleted ↔ id ∈ view.deleted)
      (creating : view'.creating.Perm (view.creating ++ [view.next]))
      (deleting : ∀ id ∈ view'.deleting, id ∈ view.deleting) (next : view.next < view'.next) :
      view.Step view'
  /-- `newFile.save()` resolves: the document is inserted and reported created. -/
  | create {view' : StoreView} (id : ObjectId)
      (stored : ∀ id', id' ∈ view'.stored ↔ id' ∈ view.stored ∨ id' = id)
      (created : ∀ id', id' ∈ view'.created ↔ id' ∈ view.created ∨ id' = id)
      (deleted : ∀ id', id' ∈ view'.deleted ↔ id' ∈ view.deleted)
      (creating : (view'.creating ++ [id]).Perm view.creating)
      (deleting : ∀ id' ∈ view'.deleting, id' ∈ view.deleting) (next : view.next ≤ view'.next) :
      view.Step view'
  /-- `File.findById(id)` of `deleteFile` finds a stored document, and the request waits at its
  delete. -/
  | load {view' : StoreView} (id : ObjectId) (present : id ∈ view.stored)
      (stored : ∀ id', id' ∈ view'.stored ↔ id' ∈ view.stored)
      (created : ∀ id', id' ∈ view'.created ↔ id' ∈ view.created)
      (deleted : ∀ id', id' ∈ view'.deleted ↔ id' ∈ view.deleted)
      (creating : view'.creating.Subperm view.creating)
      (deleting : ∀ id' ∈ view'.deleting, id' ∈ view.deleting ∨ id' = id)
      (next : view.next ≤ view'.next) :
      view.Step view'
  /-- `file.deleteOne()` resolves: the document is removed, if it is still there, and reported
  deleted. -/
  | delete {view' : StoreView} (id : ObjectId) (held : id ∈ view.deleting)
      (stored : ∀ id', id' ∈ view'.stored ↔ id' ∈ view.stored ∧ id' ≠ id)
      (created : ∀ id', id' ∈ view'.created ↔ id' ∈ view.created)
      (deleted : ∀ id', id' ∈ view'.deleted ↔ id' ∈ view.deleted ∨ id' = id)
      (creating : view'.creating.Subperm view.creating)
      (deleting : ∀ id' ∈ view'.deleting, id' ∈ view.deleting) (next : view.next ≤ view'.next) :
      view.Step view'

/-- **Every move keeps the view consistent.** -/
theorem StoreView.Step.keeps {view view' : StoreView} (consistent : view.Consistent)
    (moved : view.Step view') : view'.Consistent := by
  obtain ⟨agree, deletedCreated, deletingCreated, creatingFresh, creatingDistinct, createdBelow,
    creatingBelow⟩ := consistent
  cases moved with
  | quiet stored created deleted creating deleting next =>
    refine ⟨fun id => ?_, fun id member => ?_, fun id member => ?_, fun id member => ?_,
      Table.nodup_of_subperm creating creatingDistinct, fun id member => ?_, fun id member => ?_⟩
    · rw [stored, created, deleted]
      exact agree id
    · exact (created id).mpr (deletedCreated id ((deleted id).mp member))
    · exact (created id).mpr (deletingCreated id (deleting id member))
    · rw [created]
      exact creatingFresh id (creating.subset member)
    · exact Nat.lt_of_lt_of_le (createdBelow id ((created id).mp member)) next
    · exact Nat.lt_of_lt_of_le (creatingBelow id (creating.subset member)) next
  | draw stored created deleted creating deleting next =>
    -- the drawn id is above every id reported or held so far
    have drawnFresh : view.next ∉ view.created := fun member =>
      Nat.lt_irrefl _ (createdBelow _ member)
    have drawnNew : view.next ∉ view.creating := fun member =>
      Nat.lt_irrefl _ (creatingBelow _ member)
    have widened : ∀ id ∈ view'.creating, id ∈ view.creating ∨ id = view.next := by
      intro id member
      simpa using creating.subset member
    refine ⟨fun id => ?_, fun id member => ?_, fun id member => ?_, fun id member => ?_, ?_,
      fun id member => ?_, fun id member => ?_⟩
    · rw [stored, created, deleted]
      exact agree id
    · exact (created id).mpr (deletedCreated id ((deleted id).mp member))
    · exact (created id).mpr (deletingCreated id (deleting id member))
    · rw [created]
      rcases widened id member with old | rfl
      · exact creatingFresh id old
      · exact drawnFresh
    · exact creating.nodup_iff.mpr (creatingDistinct.append (List.nodup_singleton _)
        (fun id old same => drawnNew (by rw [← List.mem_singleton.mp same]; exact old)))
    · exact Nat.lt_trans (createdBelow id ((created id).mp member)) next
    · rcases widened id member with old | rfl
      · exact Nat.lt_trans (creatingBelow id old) next
      · exact next
  | create id stored created deleted creating deleting next =>
    have saving : id ∈ view.creating := creating.subset (by simp)
    -- the saved id was not reported, so it was not reported deleted either
    have notDeleted : id ∉ view.deleted := fun member =>
      creatingFresh id saving (deletedCreated id member)
    have left : ∀ id' ∈ view'.creating, id' ∈ view.creating ∧ id' ≠ id := by
      have distinct := creating.nodup_iff.mpr creatingDistinct
      intro id' member
      refine ⟨creating.subset (List.mem_append_left _ member), fun same => ?_⟩
      rw [same] at member
      exact (List.nodup_append.mp distinct).2.2 id member id (List.mem_singleton_self _) rfl
    refine ⟨fun id' => ?_, fun id' member => ?_, fun id' member => ?_, fun id' member => ?_, ?_,
      fun id' member => ?_, fun id' member => ?_⟩
    · rw [stored, created, deleted]
      by_cases same : id' = id
      · subst same
        simp [notDeleted]
      · simp [same, agree id']
    · exact (created id').mpr (.inl (deletedCreated id' ((deleted id').mp member)))
    · exact (created id').mpr (.inl (deletingCreated id' (deleting id' member)))
    · obtain ⟨old, other⟩ := left id' member
      rw [created]
      rintro (reported | same)
      · exact creatingFresh id' old reported
      · exact other same
    · exact (List.nodup_append.mp (creating.nodup_iff.mpr creatingDistinct)).1
    · rcases (created id').mp member with old | rfl
      · exact Nat.lt_of_lt_of_le (createdBelow id' old) next
      · exact Nat.lt_of_lt_of_le (creatingBelow id' saving) next
    · exact Nat.lt_of_lt_of_le (creatingBelow id' (left id' member).1) next
  | load id present stored created deleted creating deleting next =>
    -- a stored document was reported created
    have reported : id ∈ view.created := ((agree id).mp present).1
    refine ⟨fun id' => ?_, fun id' member => ?_, fun id' member => ?_, fun id' member => ?_,
      Table.nodup_of_subperm creating creatingDistinct, fun id' member => ?_, fun id' member => ?_⟩
    · rw [stored, created, deleted]
      exact agree id'
    · exact (created id').mpr (deletedCreated id' ((deleted id').mp member))
    · rcases deleting id' member with old | rfl
      · exact (created id').mpr (deletingCreated id' old)
      · exact (created id').mpr reported
    · rw [created]
      exact creatingFresh id' (creating.subset member)
    · exact Nat.lt_of_lt_of_le (createdBelow id' ((created id').mp member)) next
    · exact Nat.lt_of_lt_of_le (creatingBelow id' (creating.subset member)) next
  | delete id held stored created deleted creating deleting next =>
    have reported : id ∈ view.created := deletingCreated id held
    refine ⟨fun id' => ?_, fun id' member => ?_, fun id' member => ?_, fun id' member => ?_,
      Table.nodup_of_subperm creating creatingDistinct, fun id' member => ?_, fun id' member => ?_⟩
    · rw [stored, created, deleted]
      by_cases same : id' = id
      · subst same
        simp
      · simp [same, agree id']
    · rcases (deleted id').mp member with old | rfl
      · exact (created id').mpr (deletedCreated id' old)
      · exact (created id').mpr reported
    · exact (created id').mpr (deletingCreated id' (deleting id' member))
    · rw [created]
      exact creatingFresh id' (creating.subset member)
    · exact Nat.lt_of_lt_of_le (createdBelow id' ((created id').mp member)) next
    · exact Nat.lt_of_lt_of_le (creatingBelow id' (creating.subset member)) next

/-! ### The server moves its view -/

/-- The view of a server. -/
def storeView (server : Server) : StoreView where
  stored := Table.keys server.world.files
  created := createdIds server
  deleted := deletedIds server
  creating := Table.collect (fun thread : Thread => creatingId thread.progress) server.threads
  deleting := Table.collect (fun thread : Thread => deletingId thread.progress) server.threads
  next := server.world.nextObjectId

/-- A segment of a file handler that stores, draws and reports nothing, and leaves no request
waiting at a save or a delete. -/
def FileQuiet (world : World) (result : World × Outcome FileWait) : Prop :=
  Table.keys result.1.files = Table.keys world.files ∧ result.1.nextObjectId = world.nextObjectId ∧
    answerReport Response.created result.2 = none ∧ answerReport Response.deleted result.2 = none ∧
    creatingId (result.2.map .file) = none ∧ deletingId (result.2.map .file) = none

/-- **What a segment of a file handler does to the store**, one case for each segment that draws,
stores, removes or loads for a delete. -/
inductive FileStore (world : World) : FileWait → World × Outcome FileWait → Prop
  | quiet {wait : FileWait} {result : World × Outcome FileWait} (quiet : FileQuiet world result) :
      FileStore world wait result
  | draw {fileName filePath : String} {file : FileDoc} :
      FileStore world (.createChecking fileName filePath)
        ({ world with nextObjectId := world.nextObjectId + 1 },
          .await (.createSaving world.nextObjectId file))
  | create {id : ObjectId} {file : FileDoc} :
      FileStore world (.createSaving id file)
        ({ world with files := Table.insert world.files id file },
          .respond ⟨201, .file .fileUploadSuccess (id, file)⟩)
  | load {id : String} {objectId : ObjectId} {file : FileDoc} {disk : Disk}
      (present : objectId ∈ Table.keys world.files) :
      FileStore world (.deleteFinding id) ({ world with disk }, .await (.deleteDeleting objectId file))
  | delete {objectId : ObjectId} {file : FileDoc} :
      FileStore world (.deleteDeleting objectId file)
        ({ world with files := Table.erase world.files objectId },
          .respond ⟨200, .file .fileDeleted (objectId, file)⟩)

theorem fileResume_store (P : Platform) (world : World) (env : Env) (wait : FileWait) :
    FileStore world wait (fileResume P world env wait) := by
  fun_cases fileResume P world env wait <;>
    first
    | exact .quiet ⟨rfl, rfl, rfl, rfl, rfl, rfl⟩
    | exact .quiet ⟨Table.keys_modify _ _ _, rfl, rfl, rfl, rfl, rfl⟩
    | exact .draw
    | exact .create
    | exact .delete
    | exact .load (List.mem_map_of_mem (Table.get_eq_some (findById_eq_ok_some ‹_›).2.2).1)

theorem StoreView.Step.rfl (view : StoreView) : view.Step view :=
  .quiet (fun _ => Iff.rfl) (fun _ => Iff.rfl) (fun _ => Iff.rfl) (List.Subperm.refl _)
    (fun _ member => member) (Nat.le_refl _)

section Resume

variable {server : Server} {id : Nat} {request : Request} {wait : Wait}

/-- Over a resume, the ids reported created are those before and the resumed request's new one. -/
theorem storeView_resume_created (keyed : ThreadsKeyed server)
    (found : Table.get server.threads id = some (id, ⟨request, .await wait⟩)) (world' : World)
    (progress : Outcome Wait) (reported : ObjectId) :
    reported ∈ (storeView
        { server with world := world', threads := Table.set server.threads id ⟨request, progress⟩ }).created ↔
      reported ∈ (storeView server).created ∨ answerReport Response.created progress = some reported := by
  have traded := (Table.collect_set_perm (fun thread : Thread => answerReport Response.created
    thread.progress) ⟨request, progress⟩ keyed.distinct found).mem_iff (a := reported)
  simpa [storeView, createdIds, answerReport] using traded

theorem storeView_resume_deleted (keyed : ThreadsKeyed server)
    (found : Table.get server.threads id = some (id, ⟨request, .await wait⟩)) (world' : World)
    (progress : Outcome Wait) (reported : ObjectId) :
    reported ∈ (storeView
        { server with world := world', threads := Table.set server.threads id ⟨request, progress⟩ }).deleted ↔
      reported ∈ (storeView server).deleted ∨ answerReport Response.deleted progress = some reported := by
  have traded := (Table.collect_set_perm (fun thread : Thread => answerReport Response.deleted
    thread.progress) ⟨request, progress⟩ keyed.distinct found).mem_iff (a := reported)
  simpa [storeView, deletedIds, answerReport] using traded

theorem storeView_resume_creating (keyed : ThreadsKeyed server)
    (found : Table.get server.threads id = some (id, ⟨request, .await wait⟩)) (world' : World)
    (progress : Outcome Wait) :
    ((storeView
        { server with world := world', threads := Table.set server.threads id ⟨request, progress⟩ }).creating ++
        (creatingId (.await wait)).toList).Perm
      ((storeView server).creating ++ (creatingId progress).toList) :=
  Table.collect_set_perm (fun thread : Thread => creatingId thread.progress) ⟨request, progress⟩
    keyed.distinct found

theorem storeView_resume_deleting (keyed : ThreadsKeyed server)
    (found : Table.get server.threads id = some (id, ⟨request, .await wait⟩)) (world' : World)
    (progress : Outcome Wait) {held : ObjectId}
    (member : held ∈ (storeView
        { server with world := world', threads := Table.set server.threads id ⟨request, progress⟩ }).deleting) :
    held ∈ (storeView server).deleting ∨ deletingId progress = some held := by
  have traded := (Table.collect_set_perm (fun thread : Thread => deletingId thread.progress)
    ⟨request, progress⟩ keyed.distinct found).subset (List.mem_append_left _ member)
  simpa [storeView] using traded

/-- **A resume whose segment stores, draws and reports nothing moves the view quietly.** -/
theorem storeView_resume_quiet (keyed : ThreadsKeyed server)
    (found : Table.get server.threads id = some (id, ⟨request, .await wait⟩)) {world' : World}
    {progress : Outcome Wait} (keysSame : Table.keys world'.files = Table.keys server.world.files)
    (counted : server.world.nextObjectId ≤ world'.nextObjectId)
    (createdNone : answerReport Response.created progress = none)
    (deletedNone : answerReport Response.deleted progress = none)
    (creatingNone : creatingId progress = none) (deletingNone : deletingId progress = none) :
    (storeView server).Step (storeView
        { server with world := world', threads := Table.set server.threads id ⟨request, progress⟩ }) := by
  have traded := storeView_resume_creating keyed found world' progress
  rw [creatingNone, Option.toList_none, List.append_nil] at traded
  refine .quiet (fun held => ?_) (fun held => ?_) (fun held => ?_)
    ((List.sublist_append_left _ _).subperm.trans traded.subperm) (fun held member => ?_) counted
  · show held ∈ Table.keys world'.files ↔ held ∈ Table.keys server.world.files
    rw [keysSame]
  · rw [storeView_resume_created keyed found, createdNone]
    simp
  · rw [storeView_resume_deleted keyed found, deletedNone]
    simp
  · rcases storeView_resume_deleting keyed found world' progress member with old | now
    · exact old
    · rw [deletingNone] at now
      cases now

end Resume

section Steps

variable {P : Platform}

/-- A first segment stores, draws and reports nothing, and waits at neither a save nor a delete. -/
theorem enter_quiet (world : World) (now : Nat) (request : Request) :
    answerReport Response.created (enter P world now request).2 = none ∧
    answerReport Response.deleted (enter P world now request).2 = none ∧
    creatingId (enter P world now request).2 = none ∧ deletingId (enter P world now request).2 = none := by
  -- a first segment answers only with an error, never with a File document
  have hidden := enter_hides_files (P := P) world now request
  refine ⟨answerReport_of_hidden (fun response hidden => response.created_of_hidden hidden) hidden,
    answerReport_of_hidden (fun response hidden => response.deleted_of_hidden hidden) hidden, ?_⟩
  cases entered : (enter P world now request).2 with
  | await wait =>
    -- every first `await` is a lookup, a check or the queue
    rcases enter_eq_await entered with
      ⟨_, _, _, _, _, rfl, _⟩ | ⟨_, _, rfl⟩ | ⟨_, _, _, rfl⟩ | ⟨_, _, _, _, _, _, rfl⟩ |
      ⟨_, _, _, rfl⟩ | ⟨_, _, _, _, rfl⟩ | ⟨_, _, _, rfl⟩ | ⟨_, _, rfl, _⟩ <;>
      exact ⟨rfl, rfl⟩
  | respond response => exact ⟨rfl, rfl⟩
  | unhandled => exact ⟨rfl, rfl⟩

/-- `register` draws a user's id, and no segment of a user handler takes the counter back. -/
theorem userResume_nextObjectId_le (world : World) (env : Env) (wait : UserWait) :
    world.nextObjectId ≤ (userResume P world env wait).1.nextObjectId := by
  fun_cases userResume P world env wait <;> simp

/-- **Every step of the server moves its view as `StoreView.Step` says.** -/
theorem storeView_step {server server' : Server} {label : Label} (keyed : ThreadsKeyed server)
    (stepped : step P server label = some server') : (storeView server).Step (storeView server') := by
  cases label with
  | arrive request now =>
    rw [step_arrive] at stepped
    cases stepped
    obtain ⟨created, deleted, creating, deleting⟩ := enter_quiet (P := P) server.world now request
    -- a restart drops saves and deletes in flight, and no answer sent
    have reports (report : Response → Option ObjectId) :
        Table.collect (fun thread : Thread => answerReport report thread.progress)
          (afterEnter (enter P server.world now request).2 server.threads) =
        Table.collect (fun thread : Thread => answerReport report thread.progress) server.threads :=
      collect_afterEnter (answerReport report) (fun _ => rfl) rfl _ _
    refine .quiet (fun _ => by simp [storeView]) (fun held => ?_) (fun held => ?_) ?_
      (fun held member => ?_) (by simp [storeView])
    · simp [storeView, createdIds, created, reports]
    · simp [storeView, deletedIds, deleted, reports]
    · simpa [storeView, creating] using (collect_afterEnter_sublist creatingId rfl _ _).subperm
    · simp only [storeView, Table.collect_insert, deleting, Option.toList_none, List.append_nil]
        at member
      exact (collect_afterEnter_sublist deletingId rfl _ _).subset member
  | resume id env =>
    obtain ⟨request, wait, found, rfl⟩ := step_resume_eq_some stepped
    cases wait with
    | file wait =>
      simp only [resumeWait_file]
      have store := fileResume_store P server.world env wait
      generalize fileResume P server.world env wait = result at store found ⊢
      have traded := storeView_resume_creating keyed found result.1 (result.2.map .file)
      cases store with
      | quiet quiet =>
        obtain ⟨keysSame, counted, createdNone, deletedNone, creatingNone, deletingNone⟩ := quiet
        exact storeView_resume_quiet keyed found keysSame (Nat.le_of_eq counted.symm)
          (by rw [answerReport_map]; exact createdNone) (by rw [answerReport_map]; exact deletedNone)
          creatingNone deletingNone
      | draw =>
        -- the request now waits at the save, with the id just drawn
        refine .draw (fun _ => Iff.rfl) (fun held => ?_) (fun held => ?_)
          (by simpa [creatingId, storeView] using traded) (fun held member => ?_) (Nat.lt_succ_self _)
        · rw [storeView_resume_created keyed found]
          simp [answerReport]
        · rw [storeView_resume_deleted keyed found]
          simp [answerReport]
        · simpa [deletingId] using storeView_resume_deleting keyed found _ _ member
      | @create id file =>
        refine .create id (fun held => by simp [storeView]) (fun held => ?_) (fun held => ?_)
          (by simpa [creatingId] using traded) (fun held member => ?_) (Nat.le_refl _)
        · rw [storeView_resume_created keyed found]
          simp [answerReport, Response.created, eq_comm]
        · rw [storeView_resume_deleted keyed found]
          simp [answerReport, Response.deleted]
        · simpa [deletingId] using storeView_resume_deleting keyed found _ _ member
      | @load id objectId file disk present =>
        -- the request now waits at the delete of a stored document
        refine .load objectId present (fun _ => Iff.rfl) (fun held => ?_) (fun held => ?_)
          (by simpa [creatingId] using traded.subperm) (fun held member => ?_) (Nat.le_refl _)
        · rw [storeView_resume_created keyed found]
          simp [answerReport]
        · rw [storeView_resume_deleted keyed found]
          simp [answerReport]
        · simpa [deletingId, eq_comm] using storeView_resume_deleting keyed found _ _ member
      | @delete objectId file =>
        have held : objectId ∈ (storeView server).deleting :=
          Table.mem_collect (g := fun thread : Thread => deletingId thread.progress) |>.mpr
            ⟨_, (Table.get_eq_some found).1, rfl⟩
        refine .delete objectId held (fun held => by simp [storeView]) (fun held => ?_)
          (fun held => ?_) (by simpa [creatingId] using traded.subperm) (fun held member => ?_)
          (Nat.le_refl _)
        · rw [storeView_resume_created keyed found]
          simp [answerReport, Response.created]
        · rw [storeView_resume_deleted keyed found]
          simp [answerReport, Response.deleted, eq_comm]
        · simpa [deletingId] using storeView_resume_deleting keyed found _ _ member
    | user wait =>
      simp only [resumeWait_user]
      exact storeView_resume_quiet keyed found (by simp) (userResume_nextObjectId_le _ _ _)
        (answerReport_of_hidden (fun response hidden => response.created_of_hidden hidden)
          ((filesShown_map _ _).trans (userResume_hides_files _ _ _)))
        (answerReport_of_hidden (fun response hidden => response.deleted_of_hidden hidden)
          ((filesShown_map _ _).trans (userResume_hides_files _ _ _)))
        (creatingId_map_user _) (deletingId_map_user _)
    | upload wait =>
      simp only [resumeWait_upload]
      exact storeView_resume_quiet keyed found (by simp) (by simp)
        (answerReport_of_hidden (fun response hidden => response.created_of_hidden hidden)
          ((filesShown_map _ _).trans (uploadResume_hides_files _ _ _)))
        (answerReport_of_hidden (fun response hidden => response.deleted_of_hidden hidden)
          ((filesShown_map _ _).trans (uploadResume_hides_files _ _ _)))
        (creatingId_map_upload _) (deletingId_map_upload _)
  | attempt jobId now =>
    obtain ⟨world, attempted, rfl⟩ := step_attempt_eq_some stepped
    obtain ⟨disk, jobs, rfl⟩ := attemptJob_world server.world now attempted
    exact StoreView.Step.rfl _

end Steps

/-! ### Over every run -/

/-- The requests are keyed, and the view of the store is consistent. -/
structure StoreReported (server : Server) : Prop where
  keyed : ThreadsKeyed server
  consistent : (storeView server).Consistent

theorem storeReported_initial (disk : Disk) : StoreReported (initial disk) where
  keyed := threadsKeyed_initial
  -- nothing is stored, reported or held yet
  consistent := by
    refine ⟨fun id => ?_, fun id member => ?_, fun id member => ?_, fun id member => ?_, ?_,
      fun id member => ?_, fun id member => ?_⟩ <;>
      simp_all [storeView, initial, createdIds, deletedIds, Table.keys, Table.collect]

theorem storeReported_reachable {P : Platform} {disk : Disk} {server : Server}
    (reachable : Transition.Reachable (step P) (initial disk) server) : StoreReported server :=
  Transition.reachable_invariant StoreReported (storeReported_initial disk)
    (fun _ _ _ kept stepped =>
      ⟨threadsKeyed_step kept.keyed stepped, (storeView_step kept.keyed stepped).keeps kept.consistent⟩)
    reachable

/-- A `GET /files/:id` with a verified token, served alone, is answered with the store's answer to
the lookup. -/
theorem run_readFileById {P : Platform} {server : Server} (keyed : ThreadsKeyed server)
    {authorization : Option String} {user : ObjectId}
    (verified : authenticateToken P authorization = .ok user) (id : ObjectId) (now : Nat) {env : Env}
    (resolved : env.settle = .resolve) :
    ∃ final, Transition.run (step P) server
        [.arrive (.readFileById authorization (toString id)) now, .resume server.nextRequestId env] =
        some final ∧
      final.response server.nextRequestId = some ((storeOf server.world).apply (.get id)).2.response := by
  obtain ⟨final, ran, _, _, answered⟩ :=
    run_servesAs keyed (fun _ _ _ same => by cases same) (servesAs_get verified id resolved)
  exact ⟨final, ran, answered⟩

/-- **A read by id finds no document reported deleted.** From any reachable state, whatever has
run before, a `GET /files/:id` with a verified token, for the id of a document an answer has
reported deleted, is answered `404` once `File.findById` resolves. -/
theorem read_after_delete {P : Platform} {disk : Disk} {server : Server}
    (reachable : Transition.Reachable (step P) (initial disk) server) {id : ObjectId}
    (deleted : id ∈ deletedIds server) {authorization : Option String} {user : ObjectId}
    (verified : authenticateToken P authorization = .ok user) (now : Nat) {env : Env}
    (resolved : env.settle = .resolve) :
    ∃ final, Transition.run (step P) server
        [.arrive (.readFileById authorization (toString id)) now, .resume server.nextRequestId env] =
        some final ∧
      final.response server.nextRequestId = some (errorResponse 404 .fileNotFound) := by
  -- the document is gone from the collection
  have gone : id ∉ Table.keys server.world.files := fun stored =>
    (((storeReported_reachable reachable).consistent.agree id).mp stored).2 deleted
  obtain ⟨final, ran, answered⟩ :=
    run_readFileById (threadsKeyed_reachable reachable) verified id now resolved
  refine ⟨final, ran, ?_⟩
  rw [answered]
  simp [DocStore.apply, storeOf, Table.get_eq_none.mpr gone, FileAnswer.response]

/-- User 0 creates `a.txt` and `b.txt`, then deletes the first, one request at a time. -/
def createTwiceDeleteFirst : List Label :=
  sequentialLabels 0
    [(createNamed "a.txt", 1, [⟨.resolve, 1, ""⟩, ⟨.resolve, 1, ""⟩]),
      (createNamed "b.txt", 2, [⟨.resolve, 2, ""⟩, ⟨.resolve, 2, ""⟩]),
      (.deleteFile (bearer 0) "0", 3, [⟨.resolve, 3, ""⟩, ⟨.resolve, 3, ""⟩])]

theorem read_after_delete_standIn :
    ∃ server, Transition.Reachable (step standIn) (initial fun _ => none) server ∧
      0 ∈ deletedIds server ∧ authenticateToken standIn (bearer 0) = .ok 0 ∧
      ∃ final, Transition.run (step standIn) server
          [.arrive (.readFileById (bearer 0) (toString 0)) 4, .resume server.nextRequestId ⟨.resolve, 4, ""⟩] =
          some final ∧
        final.response server.nextRequestId = some (errorResponse 404 .fileNotFound) := by
  have computed : (Transition.run (step standIn) (initial fun _ => none) createTwiceDeleteFirst).map
      deletedIds = some [0] := by
    decide
  obtain ⟨server, ran, reported⟩ := Option.map_eq_some_iff.mp computed
  have deleted : 0 ∈ deletedIds server := by rw [reported]; decide
  exact ⟨server, ⟨createTwiceDeleteFirst, ran⟩, deleted, authenticateToken_standIn 0,
    read_after_delete ⟨createTwiceDeleteFirst, ran⟩ deleted (authenticateToken_standIn 0) 4 rfl⟩

end FileManager
