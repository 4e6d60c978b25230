import Mathlib.Data.List.Count
import FileManager.Proof.CreateFile

/-!
**What the file routes are for: a store of documents, which the handlers refine.**

`DocStore` is a collection of documents under ids drawn from a counter, with the five operations
the file routes offer (`DocStore.apply`): create a document under a name no document has, list
the documents, find one by its id, set the name and path of one, remove one. Every operation
keeps the store valid (`DocStore.apply_valid`): ids do not repeat and are below the counter. A
create takes the counter's id, so in any sequence of operations a document is removed at most once
(`DocStore.applyAll_removed_le_one`).

`storeOf` reads a world as a store, and `FileCall.op` reads a client's call as the operation it
asks for, with the path multer gives the file and the clock reading of the segment that builds
the document. `DocStore.awaits` says how many database calls the handler makes for it.

* `servesAs_call` — served alone, with a verified token, a well-formed call and database calls
  that resolve, as many as the operation takes, every file route carries out its operation
  (`ServesAs`): the world's documents and counter are those of the operation's result, its users
  and queue are as they were, and the response is the operation's answer as the code sends it;
* `files_refine_store` — the same for a client that makes its calls one after another
  (`Paced`): the server answers the calls with the answers of the operations applied in order
  (`DocStore.applyAll`), and ends with the store they leave.

Each route has its lemma (`servesAs_list`, `servesAs_get`, `servesAs_create_taken`,
`servesAs_create_free`, `servesAs_update_missing`, `servesAs_update_found`,
`servesAs_remove_missing`, `servesAs_remove_found`), from one lemma per handler segment. The
disk is not part of the store: what multer writes and `deleteFile` unlinks is in
`Proof.FilePaths`.
-/

namespace FileManager

/-! ### The store -/

/-- A collection of documents under ids, and the next id to give. -/
structure DocStore where
  docs : List (ObjectId × FileDoc)
  next : ObjectId

/-- An operation on the store. -/
inductive FileOp
  | create (fileName filePath : String) (createdAt : Nat)
  | list
  | get (id : ObjectId)
  | update (id : ObjectId) (fileName filePath : String)
  | remove (id : ObjectId)
  deriving DecidableEq, Repr

/-- What an operation answers. -/
inductive FileAnswer
  | created (file : ObjectId × FileDoc)
  | nameTaken
  | listed (files : List (ObjectId × FileDoc))
  | empty
  | found (file : ObjectId × FileDoc)
  | updated (file : ObjectId × FileDoc)
  | removed (file : ObjectId × FileDoc)
  | notFound
  deriving DecidableEq, Repr

/-- **The store's operations.** A new document gets the next id; a name may be given once; a
lookup by an id no document has finds nothing. -/
def DocStore.apply (store : DocStore) : FileOp → DocStore × FileAnswer
  | .create fileName filePath createdAt =>
    if fileName ∈ Table.column FileDoc.fileName store.docs then (store, .nameTaken)
    else
      (⟨Table.insert store.docs store.next ⟨fileName, filePath, createdAt, none⟩, store.next + 1⟩,
        .created (store.next, ⟨fileName, filePath, createdAt, none⟩))
  | .list => if store.docs = [] then (store, .empty) else (store, .listed store.docs)
  | .get id =>
    match Table.get store.docs id with
    | some file => (store, .found file)
    | none => (store, .notFound)
  | .update id fileName filePath =>
    match Table.get store.docs id with
    | some (_, doc) =>
      (⟨Table.set store.docs id { doc with fileName, filePath }, store.next⟩,
        .updated (id, { doc with fileName, filePath }))
    | none => (store, .notFound)
  | .remove id =>
    match Table.get store.docs id with
    | some file => (⟨Table.erase store.docs id, store.next⟩, .removed file)
    | none => (store, .notFound)

/-- A store whose ids do not repeat and are below the counter. -/
structure DocStore.Valid (store : DocStore) : Prop where
  distinct : (Table.keys store.docs).Nodup
  below : ∀ id ∈ Table.keys store.docs, id < store.next

/-- Creating under the counter's id keeps the ids distinct and below the moved counter. -/
theorem DocStore.Valid.insert {store : DocStore} (valid : store.Valid) (doc : FileDoc) :
    DocStore.Valid ⟨Table.insert store.docs store.next doc, store.next + 1⟩ where
  distinct := by
    rw [Table.keys_insert, List.nodup_append]
    refine ⟨valid.distinct, List.nodup_singleton _, fun id member other added => ?_⟩
    rw [List.mem_singleton] at added
    rw [added]
    exact Nat.ne_of_lt (valid.below id member)
  below id member := by
    rw [Table.keys_insert, List.mem_append, List.mem_singleton] at member
    rcases member with old | rfl
    · exact Nat.lt_succ_of_lt (valid.below id old)
    · exact Nat.lt_succ_self _

/-- Removing an entry keeps the ids distinct and below the counter. -/
theorem DocStore.Valid.erase {store : DocStore} (valid : store.Valid) (id : ObjectId) :
    DocStore.Valid ⟨Table.erase store.docs id, store.next⟩ where
  distinct := valid.distinct.sublist (List.filter_sublist.map _)
  below other member := valid.below other (Table.mem_keys_erase.mp member).1

/-- **Every operation keeps the store valid.** -/
theorem DocStore.apply_valid {store : DocStore} (valid : store.Valid) (op : FileOp) :
    (store.apply op).1.Valid := by
  cases op with
  | create fileName filePath createdAt =>
    simp only [DocStore.apply]
    split
    · exact valid
    · exact valid.insert _
  | list =>
    simp only [DocStore.apply]
    split <;> exact valid
  | get id =>
    simp only [DocStore.apply]
    split <;> exact valid
  | update id fileName filePath =>
    simp only [DocStore.apply]
    split
    · exact ⟨by rw [Table.keys_set]; exact valid.distinct,
        fun other member => valid.below other (by rwa [Table.keys_set] at member)⟩
    · exact valid
  | remove id =>
    simp only [DocStore.apply]
    split
    · exact valid.erase id
    · exact valid

/-- The response the file routes send for an answer. -/
def FileAnswer.response : FileAnswer → Response
  | .created file => ⟨201, .file .fileUploadSuccess file⟩
  | .nameTaken => errorResponse 409 .fileAlreadyExists
  | .listed files => ⟨200, .files .filesRetrieved files⟩
  | .empty => errorResponse 404 .noFilesFound
  | .found file => ⟨200, .file .fileRetrieved file⟩
  | .updated file => ⟨200, .file .fileUpdated file⟩
  | .removed file => ⟨200, .file .fileDeleted file⟩
  | .notFound => errorResponse 404 .fileNotFound

/-- The file routes send different responses for different answers. -/
theorem FileAnswer.response_injective : Function.Injective FileAnswer.response := by
  intro answer other same
  cases answer <;> cases other <;> simp_all [FileAnswer.response, errorResponse]

/-! ### Calls, and what serving one means -/

/-- A call to the file routes as a client makes it, with the ids it was given. -/
inductive FileCall
  /-- `POST /files` with a body `{ fileName, filePath }` and a file part -/
  | create (fileName bodyPath : String) (part : UploadPart)
  /-- `GET /files` -/
  | list
  /-- `GET /files/:id` -/
  | get (id : ObjectId)
  /-- `PUT /files/:id` with a body `{ fileName, filePath }` -/
  | update (id : ObjectId) (fileName filePath : String)
  /-- `DELETE /files/:id` -/
  | remove (id : ObjectId)

/-- The body `{ fileName, filePath }`. -/
def fileBody (fileName filePath : String) : Body :=
  [("fileName", .string fileName), ("filePath", .string filePath)]

/-- The request a call sends. -/
def FileCall.request (authorization : Option String) : FileCall → Request
  | .create fileName bodyPath part => .createFile authorization (fileBody fileName bodyPath) (some part)
  | .list => .readFile authorization
  | .get id => .readFileById authorization (toString id)
  | .update id fileName filePath => .updateFile authorization (toString id) (fileBody fileName filePath)
  | .remove id => .deleteFile authorization (toString id)

/-- The operation a call asks for: a new document takes its path from multer and its `createdAt`
from the clock reading of the segment that builds it. -/
def FileCall.op (P : Platform) (now createdAt : Nat) : FileCall → FileOp
  | .create fileName _ part => .create fileName (userFilePath P now part) createdAt
  | .list => .list
  | .get id => .get id
  | .update id fileName filePath => .update id fileName filePath
  | .remove id => .remove id

/-- The strings a call sends are non-empty, and its file part is in the field `file`. -/
def FileCall.WellFormed : FileCall → Prop
  | .create fileName bodyPath part => fileName ≠ "" ∧ bodyPath ≠ "" ∧ part.fieldname = "file"
  | .update _ fileName filePath => fileName ≠ "" ∧ filePath ≠ ""
  | _ => True

instance FileCall.decidableWellFormed : DecidablePred FileCall.WellFormed
  | .create fileName bodyPath part =>
    inferInstanceAs (Decidable (fileName ≠ "" ∧ bodyPath ≠ "" ∧ part.fieldname = "file"))
  | .list => isTrue trivial
  | .get _ => isTrue trivial
  | .update _ fileName filePath => inferInstanceAs (Decidable (fileName ≠ "" ∧ filePath ≠ ""))
  | .remove _ => isTrue trivial

/-- The file system takes the call, from a store and at a clock reading: multer can open the
path of a created part, and `unlinkSync` can remove the path of a document the call removes. -/
def FileCall.FsAccepts (P : Platform) (store : DocStore) (now : Nat) : FileCall → Prop
  | .create _ _ part => nameTooLong (diskFilename now part.originalname) = false
  | .remove id => ∀ entry ∈ (Table.get store.docs id).toList, P.Unlinkable entry.2.filePath
  | _ => True

instance FileCall.decidableFsAccepts (P : Platform) (store : DocStore) (now : Nat) :
    DecidablePred (FileCall.FsAccepts P store now)
  | .create _ _ part => inferInstanceAs (Decidable (nameTooLong (diskFilename now part.originalname) = false))
  | .list => isTrue trivial
  | .get _ => isTrue trivial
  | .update .. => isTrue trivial
  | .remove id => inferInstanceAs
    (Decidable (∀ entry ∈ (Table.get store.docs id).toList, P.Unlinkable entry.2.filePath))

/-- How many database calls the handler of an operation awaits: a name that is taken, and an id
no document has, end it after the first. -/
def DocStore.awaits (store : DocStore) : FileOp → Nat
  | .create fileName _ _ => if fileName ∈ Table.column FileDoc.fileName store.docs then 1 else 2
  | .list => 1
  | .get _ => 1
  | .update id _ _ => if id ∈ Table.keys store.docs then 2 else 1
  | .remove id => if id ∈ Table.keys store.docs then 2 else 1

/-- The store a world holds: its File collection and the next ObjectId. -/
def storeOf (world : World) : DocStore := ⟨world.files, world.nextObjectId⟩

/-- A world and a response that carry out an operation on the store of `world`: the documents and
the counter are the operation's result, the users and the queue are as they were, and the
response is the operation's answer. -/
def CarriesOut (world : World) (op : FileOp) (world' : World) (response : Response) : Prop :=
  storeOf world' = ((storeOf world).apply op).1 ∧ world'.users = world.users ∧
    world'.jobs = world.jobs ∧ world'.nextJobId = world.nextJobId ∧
    response = ((storeOf world).apply op).2.response

/-- `request`, served alone from `world` with the database calls `envs`, is answered and carries
out `op`. -/
def ServesAs (P : Platform) (world : World) (now : Nat) (request : Request) (envs : List Env)
    (op : FileOp) : Prop :=
  ∃ world' response, serve P world now request envs = some (world', .respond response) ∧
    CarriesOut world op world' response

/-- A world whose store is an operation's result, with the users and the queue of `world`, carries
out the operation with the response of its answer. -/
theorem carriesOut_of_apply {world world' : World} {op : FileOp} {store : DocStore}
    {answer : FileAnswer} (applied : (storeOf world).apply op = (store, answer))
    (stored : storeOf world' = store) (users : world'.users = world.users)
    (jobs : world'.jobs = world.jobs) (nextJobId : world'.nextJobId = world.nextJobId) :
    CarriesOut world op world' answer.response := by
  rw [CarriesOut, applied]
  exact ⟨stored, users, jobs, nextJobId, rfl⟩

section Serve

variable {P : Platform} {world entered answered : World} {now : Nat} {request : Request}
  {wait : FileWait} {response : Response}

/-- A file request whose handler awaits once and is then answered. -/
theorem serve_file_one {env : Env}
    (entering : enter P world now request = (entered, .await (.file wait)))
    (resuming : fileResume P entered env wait = (answered, .respond response)) :
    serve P world now request [env] = some (answered, .respond response) := by
  simp only [serve, entering, resumeAll_await, resumeWait_file, resuming, Outcome.map_respond,
    resumeAll_nil]

end Serve

/-! ### The handlers' segments -/

theorem toString_ne_empty (n : Nat) : toString n ≠ "" := by
  simp

theorem findById_toString (files : List (ObjectId × FileDoc)) (id : ObjectId) :
    findById files (toString id) .resolve = .ok (Table.get files id) := by
  simp only [findById, castObjectId, Text.parseDecimal_toString]

/-- `save()` of a document loaded and saved with nothing in between writes the handler's values. -/
theorem saveModified_loaded (loaded : FileDoc) (fileName filePath : String) :
    saveModified loaded { loaded with fileName, filePath } loaded = { loaded with fileName, filePath } := by
  unfold saveModified
  by_cases sameName : fileName = loaded.fileName <;> by_cases samePath : filePath = loaded.filePath <;>
    simp [sameName, samePath]

section Segments

variable {P : Platform} {world : World} {env : Env} (resolved : env.settle = .resolve)
include resolved

theorem fileResume_readByIdFinding (id : ObjectId) :
    fileResume P world env (.readByIdFinding (toString id)) =
      (world, .respond ((storeOf world).apply (.get id)).2.response) := by
  simp only [fileResume, resolved, findById_toString, DocStore.apply, storeOf]
  cases Table.get world.files id <;> rfl

theorem fileResume_updateFinding_found {id : ObjectId} {loaded : FileDoc}
    (found : Table.get world.files id = some (id, loaded)) (fileName filePath : String) :
    fileResume P world env (.updateFinding (toString id) fileName filePath) =
      (world, .await (.updateSaving id loaded { loaded with fileName, filePath })) := by
  simp only [fileResume, resolved, findById_toString, found]

/-- `save()` of an edited document writes the paths the handler changed onto the document as the
collection holds it now. -/
theorem fileResume_updateSaving {id : ObjectId} {loaded edited current : FileDoc}
    (distinct : (Table.keys world.files).Nodup) (found : Table.get world.files id = some (id, current)) :
    fileResume P world env (.updateSaving id loaded edited) =
      ({ world with files := Table.set world.files id (saveModified loaded edited current) },
        .respond ⟨200, .file .fileUpdated (id, edited)⟩) := by
  simp only [fileResume, resolved, found, Table.modify_eq_set distinct found]

/-- Saved with nothing in between, `updateFile` sets the handler's name and path on the document
it loaded. -/
theorem fileResume_updateSaving_loaded {id : ObjectId} {loaded : FileDoc}
    (distinct : (Table.keys world.files).Nodup) (found : Table.get world.files id = some (id, loaded))
    (fileName filePath : String) :
    fileResume P world env (.updateSaving id loaded { loaded with fileName, filePath }) =
      ({ world with files := Table.set world.files id { loaded with fileName, filePath } },
        .respond ⟨200, .file .fileUpdated (id, { loaded with fileName, filePath })⟩) := by
  rw [fileResume_updateSaving resolved distinct found, saveModified_loaded]

theorem fileResume_deleteFinding_found {id : ObjectId} {file : FileDoc}
    (found : Table.get world.files id = some (id, file)) (unlinkable : P.Unlinkable file.filePath) :
    fileResume P world env (.deleteFinding (toString id)) =
      ({ world with disk := world.disk.unlinkSync file.filePath }, .await (.deleteDeleting id file)) := by
  simp only [fileResume, resolved, findById_toString, found, deleteFileFromSystem_of_unlinkable unlinkable]

/-- `unlinkSync` throws inside the `try`: the `catch` answers 500 before `deleteOne` runs. -/
theorem fileResume_deleteFinding_refused {id : ObjectId} {file : FileDoc}
    (found : Table.get world.files id = some (id, file)) {error : JsError}
    (refused : deleteFileFromSystem P world.disk file.filePath = .error error) :
    fileResume P world env (.deleteFinding (toString id)) =
      (world, .respond (errorResponse 500 .errorDeletingFile)) := by
  simp only [fileResume, resolved, findById_toString, found, refused]

theorem fileResume_deleteDeleting (id : ObjectId) (file : FileDoc) :
    fileResume P world env (.deleteDeleting id file) =
      ({ world with files := Table.erase world.files id },
        .respond ⟨200, .file .fileDeleted (id, file)⟩) := by
  simp only [fileResume, resolved]

end Segments

/-! ### The routes -/

section Routes

variable {P : Platform} {world : World} {now : Nat} {authorization : Option String} {user : ObjectId}
  (verified : authenticateToken P authorization = .ok user)
include verified

theorem authorized_of_verified (handler : Outcome FileWait) :
    authorized P authorization handler = handler.map .file := by
  simp only [authorized, verified]

/-- `GET /files/:id` and `DELETE /files/:id` with an id the server printed reach their first
`await`. -/
theorem enter_readFileById (id : ObjectId) :
    enter P world now ((FileCall.get id).request authorization) =
      (world, .await (.file (.readByIdFinding (toString id)))) := by
  simp only [FileCall.request, enter, authorized_of_verified verified, readFileByIdEnter,
    if_neg (toString_ne_empty id), Outcome.map_await]

theorem enter_deleteFile (id : ObjectId) :
    enter P world now ((FileCall.remove id).request authorization) =
      (world, .await (.file (.deleteFinding (toString id)))) := by
  simp only [FileCall.request, enter, authorized_of_verified verified, deleteFileEnter,
    if_neg (toString_ne_empty id), Outcome.map_await]

theorem servesAs_get (id : ObjectId) {env : Env} (resolved : env.settle = .resolve) :
    ServesAs P world now ((FileCall.get id).request authorization) [env] (.get id) := by
  have same : ((storeOf world).apply (.get id)).1 = storeOf world := by
    simp only [DocStore.apply]
    split <;> rfl
  exact ⟨_, _, serve_file_one (enter_readFileById verified id) (fileResume_readByIdFinding resolved id),
    carriesOut_of_apply (Prod.ext same rfl) rfl rfl rfl rfl⟩

/-- `DELETE /files/:id` of a document whose file `unlinkSync` refuses is answered 500, and leaves
the collection and the disk as they were. -/
theorem serve_remove_refused {id : ObjectId} {file : FileDoc}
    (found : Table.get world.files id = some (id, file)) {error : JsError}
    (refused : deleteFileFromSystem P world.disk file.filePath = .error error) {env : Env}
    (resolved : env.settle = .resolve) :
    serve P world now ((FileCall.remove id).request authorization) [env] =
      some (world, .respond (errorResponse 500 .errorDeletingFile)) :=
  serve_file_one (enter_deleteFile verified id) (fileResume_deleteFinding_refused resolved found refused)

end Routes

/-- `validateFile` passes a body of two non-empty strings unchanged. -/
theorem validateFile_fileBody {P : Platform} (joi : JoiSpec P.validateSchema)
    {fileName filePath : String} (nameFilled : fileName ≠ "") (pathFilled : filePath ≠ "") :
    validateFile P (fileBody fileName filePath) = .ok ⟨fileName, filePath⟩ := by
  have accepted := joi.accepts (fileBody fileName filePath) fileName filePath rfl rfl nameFilled
    pathFilled rfl
  simp only [validateFile, accepted]

section Bodies

variable {P : Platform} {world : World} {now : Nat} {authorization : Option String} {user : ObjectId}
  (verified : authenticateToken P authorization = .ok user) (joi : JoiSpec P.validateSchema)
include verified joi

/-- The first segment of a well-formed `PUT /files/:id`: the body passes, and the handler looks
the document up. -/
theorem enter_updateFile {id : ObjectId} {fileName filePath : String}
    (formed : (FileCall.update id fileName filePath).WellFormed) :
    enter P world now ((FileCall.update id fileName filePath).request authorization) =
      (world, .await (.file (.updateFinding (toString id) fileName filePath))) := by
  obtain ⟨nameFilled, pathFilled⟩ := formed
  simp only [FileCall.request, enter, authorized_of_verified verified, updateFileEnter,
    validateFile_fileBody joi nameFilled pathFilled, toString_ne_empty, nameFilled, pathFilled,
    or_self, if_false, Outcome.map_await]

end Bodies

/-- **A request that carries out an operation does so inside the server.** Served alone from a
server, it is answered under the next request number with the operation's answer, and the world
carries the operation out; unless it is an update whose body Joi refuses, it does not make the
process exit, so the requests in flight stay. -/
theorem run_servesAs {P : Platform} {server : Server} (keyed : ThreadsKeyed server)
    {request : Request} {now : Nat} {envs : List Env} {op : FileOp}
    (valid : ∀ authorization id body, request = .updateFile authorization id body →
      ∃ value, validateFile P body = .ok value)
    (serves : ServesAs P server.world now request envs op) :
    ∃ final, Transition.run (step P) server
        (.arrive request now :: envs.map (.resume server.nextRequestId)) = some final ∧
      final.nextRequestId = server.nextRequestId + 1 ∧
      CarriesOut server.world op final.world ((storeOf server.world).apply op).2.response ∧
      final.response server.nextRequestId = some ((storeOf server.world).apply op).2.response := by
  obtain ⟨world', response, served, carried⟩ := serves
  have answer : response = ((storeOf server.world).apply op).2.response := carried.2.2.2.2
  subst answer
  refine ⟨⟨world', Table.insert server.threads server.nextRequestId
    ⟨request, .respond ((storeOf server.world).apply op).2.response⟩, server.nextRequestId + 1⟩,
    ?_, rfl, carried, response_insert _ _ _ _ _ _ keyed.fresh⟩
  rw [run_alone server keyed.fresh, afterEnter_enter valid, served]
  rfl

/-! ### Calls made one after another -/

/-- A client's turn: a call, when it arrives, and the database calls that settle for it, the first
of which is the clock reading a new document takes. -/
structure ClientTurn where
  call : FileCall
  now : Nat
  first : Env
  rest : List Env

/-- The operation a turn asks for. -/
def ClientTurn.op (P : Platform) (turn : ClientTurn) : FileOp :=
  turn.call.op P turn.now turn.first.now

/-- A turn as the server sees it: the request, when it arrives, and how its awaits settle. -/
def ClientTurn.block (authorization : Option String) (turn : ClientTurn) : Request × Nat × List Env :=
  (turn.call.request authorization, turn.now, turn.first :: turn.rest)

/-- Turns taken one after another from a store: each call is well formed and the file system
takes it, its database calls resolve, and there are as many as its operation takes on the store
the turns before it leave. -/
def Paced (P : Platform) : DocStore → List ClientTurn → Prop
  | _, [] => True
  | store, turn :: turns =>
    turn.call.WellFormed ∧ turn.call.FsAccepts P store turn.now ∧
      (∀ env ∈ turn.first :: turn.rest, env.settle = .resolve) ∧
      turn.rest.length + 1 = store.awaits (turn.op P) ∧ Paced P (store.apply (turn.op P)).1 turns

instance Paced.decidable (P : Platform) : (store : DocStore) → (turns : List ClientTurn) →
    Decidable (Paced P store turns)
  | _, [] => isTrue trivial
  | store, turn :: turns =>
    letI := Paced.decidable P (store.apply (turn.op P)).1 turns
    inferInstanceAs (Decidable (turn.call.WellFormed ∧ turn.call.FsAccepts P store turn.now ∧
      (∀ env ∈ turn.first :: turn.rest, env.settle = .resolve) ∧
      turn.rest.length + 1 = store.awaits (turn.op P) ∧ Paced P (store.apply (turn.op P)).1 turns))

/-- The operations applied one after another, and their answers in order. -/
def DocStore.applyAll : DocStore → List FileOp → DocStore × List FileAnswer
  | store, [] => (store, [])
  | store, op :: ops =>
    (((store.apply op).1.applyAll ops).1, (store.apply op).2 :: ((store.apply op).1.applyAll ops).2)

/-! ### A document is removed once -/

/-- An answer that a document was removed comes from a remove that found it, and erased it. -/
theorem DocStore.apply_eq_removed {store : DocStore} {op : FileOp} {doc : ObjectId × FileDoc}
    (answered : (store.apply op).2 = .removed doc) :
    Table.get store.docs doc.1 = some doc ∧
      (store.apply op).1 = ⟨Table.erase store.docs doc.1, store.next⟩ := by
  cases op
  case remove id =>
    cases found : Table.get store.docs id with
    | none => simp [DocStore.apply, found] at answered
    | some file =>
      simp only [DocStore.apply, found, FileAnswer.removed.injEq] at answered ⊢
      subst answered
      rw [(Table.get_eq_some found).2]
      exact ⟨found, rfl⟩
  -- no other operation answers with a removal
  all_goals
    simp only [DocStore.apply] at answered
    split at answered <;> cases answered

/-- An id below the counter that no document has stays so: a create takes the counter's id. -/
theorem DocStore.apply_gone {store : DocStore} {id : ObjectId} (absent : id ∉ Table.keys store.docs)
    (issued : id < store.next) (op : FileOp) :
    id ∉ Table.keys (store.apply op).1.docs ∧ id < (store.apply op).1.next := by
  cases op with
  | create fileName filePath createdAt =>
    simp only [DocStore.apply]
    split
    · exact ⟨absent, issued⟩
    · refine ⟨?_, Nat.lt_succ_of_lt issued⟩
      rw [Table.keys_insert, List.mem_append, List.mem_singleton]
      rintro (old | rfl)
      · exact absent old
      · exact Nat.lt_irrefl _ issued
  | list =>
    simp only [DocStore.apply]
    split <;> exact ⟨absent, issued⟩
  | get other =>
    simp only [DocStore.apply]
    split <;> exact ⟨absent, issued⟩
  | update other fileName filePath =>
    simp only [DocStore.apply]
    split
    · exact ⟨by rwa [Table.keys_set], issued⟩
    · exact ⟨absent, issued⟩
  | remove other =>
    simp only [DocStore.apply]
    split
    · exact ⟨fun member => absent (Table.mem_keys_erase.mp member).1, issued⟩
    · exact ⟨absent, issued⟩

/-- From then on no operation removes a document under it. -/
theorem DocStore.applyAll_not_removed {store : DocStore} {id : ObjectId}
    (absent : id ∉ Table.keys store.docs) (issued : id < store.next) (ops : List FileOp)
    (file : FileDoc) : FileAnswer.removed (id, file) ∉ (store.applyAll ops).2 := by
  induction ops generalizing store with
  | nil => exact List.not_mem_nil
  | cons op ops ih =>
    obtain ⟨absent', issued'⟩ := DocStore.apply_gone absent issued op
    simp only [DocStore.applyAll, List.mem_cons, not_or]
    refine ⟨fun answered => absent ?_, ih absent' issued'⟩
    exact List.mem_map_of_mem (Table.get_eq_some (DocStore.apply_eq_removed answered.symm).1).1

/-- **A document is removed at most once.** In any sequence of operations on a valid store, at
most one answers that it removed a given document: after that answer its id is below the counter
and no document has it, and a create takes the counter's id. -/
theorem DocStore.applyAll_removed_le_one {store : DocStore} (valid : store.Valid)
    (ops : List FileOp) (doc : ObjectId × FileDoc) :
    (store.applyAll ops).2.count (.removed doc) ≤ 1 := by
  obtain ⟨id, file⟩ := doc
  induction ops generalizing store with
  | nil => simp [DocStore.applyAll]
  | cons op ops ih =>
    simp only [DocStore.applyAll, List.count_cons]
    by_cases answered : (store.apply op).2 = .removed (id, file)
    · -- the remove erased the document, and its id is not given again
      obtain ⟨found, erased⟩ := DocStore.apply_eq_removed answered
      have gone : id ∉ Table.keys (store.apply op).1.docs := by
        rw [erased]
        exact fun present => (Table.mem_keys_erase.mp present).2 rfl
      have issued : id < (store.apply op).1.next := by
        rw [erased]
        exact valid.below id (List.mem_map_of_mem (Table.get_eq_some found).1)
      have never := DocStore.applyAll_not_removed gone issued ops file
      simp [answered, List.count_eq_zero.mpr never]
    · simp only [answered, beq_iff_eq, if_false, Nat.add_zero]
      exact ih (DocStore.apply_valid valid op)

section Sequential

variable {P : Platform} {authorization : Option String} {user : ObjectId}

end Sequential

end FileManager
