import FileManager.Proof.FileNames
import Mathlib.Data.List.Perm.Subperm

/-!
**Paths in `user_files`: each document owns the file multer stored for it.**

`createFile` records `req.file.path`, where multer stored the part as
`user_files/${Date.now()}-${originalname}`, and `deleteFile` unlinks the `filePath` of the document
it found. Two things break the link between a document and its file: `updateFile` sets
`filePath` from the body, and two creates whose parts are stored in one millisecond under one
original name write one path. Outside them the link holds in every interleaving:

* `PathsOwned past server` — the invariant, indexed by the names `past` multer has stored under so
  far: the paths held by the creates in flight and by the documents are pairwise distinct; each is
  where multer stored the part of a create under a name of `past`; a create in flight finds its
  bytes there, and a document its bytes or nothing (after a delete has unlinked it);
* `pathsOwned_step`, `pathsOwned_run` — every step outside `updateFile` and the upload pipeline
  keeps it when the name multer stores under is new (`Transition.run_invariant_fresh`);
* `removed_by_delete` — a step that removes a file is `deleteFile` unlinking the path of the
  document it found;
* `filePaths_owned` — the paths of the documents are distinct and inside `user_files`, each holds
  the bytes uploaded for it or nothing, and a step that removes a file removes the uploaded file
  of exactly one document, which no create in flight holds;
* `filePaths_owned_fails` — a rename by `updateFile` followed by a delete unlinks `/etc/passwd`,
  and two creates in one millisecond leave a document whose file the other's delete removed.
-/

namespace FileManager

/-! ### What requests and documents hold -/

/-- The path in `user_files` a request holds while `createFile` runs: the one multer wrote, which
the document about to be saved records. -/
def heldPath : Outcome Wait → Option String
  | .await (.file (.createChecking _ filePath)) => some filePath
  | .await (.file (.createSaving _ file)) => some file.filePath
  | _ => none

/-- The paths held by the creates in flight, then by the documents. -/
def heldPaths (server : Server) : List String :=
  Table.collect (fun thread : Thread => heldPath thread.progress) server.threads ++
    Table.column FileDoc.filePath server.world.files

/-- A request inside `updateFile`, which sets a document's `filePath` from the body. -/
def InUpdate : Outcome Wait → Prop
  | .await (.file (.updateFinding ..)) => True
  | .await (.file (.updateSaving ..)) => True
  | _ => False

theorem heldPath_user (outcome : Outcome UserWait) : heldPath (outcome.map .user) = none := by
  cases outcome <;> rfl

theorem heldPath_upload (outcome : Outcome UploadWait) : heldPath (outcome.map .upload) = none := by
  cases outcome <;> rfl

theorem not_inUpdate_user (outcome : Outcome UserWait) : ¬ InUpdate (outcome.map .user) := by
  cases outcome <;> exact fun inUpdate => inUpdate

theorem not_inUpdate_upload (outcome : Outcome UploadWait) : ¬ InUpdate (outcome.map .upload) := by
  cases outcome <;> exact fun inUpdate => inUpdate

/-- The steps the invariant is kept by: the arrival of every request but `updateFile` and an
upload to `/api/uploads/upload`, and every resume. -/
def WithoutUpdate : Label → Prop
  | .arrive (.updateFile ..) _ => False
  | .arrive (.upload _) _ => False
  | .arrive _ _ => True
  | .resume _ _ => True
  | .attempt _ _ => False

instance (label : Label) : Decidable (WithoutUpdate label) :=
  match label with
  | .arrive (.updateFile ..) _ => isFalse id
  | .arrive (.upload _) _ => isFalse id
  | .arrive (.createFile ..) _ | .arrive (.readFile ..) _ | .arrive (.readFileById ..) _
  | .arrive (.deleteFile ..) _ | .arrive (.register ..) _ | .arrive (.login ..) _ => isTrue trivial
  | .resume _ _ => isTrue trivial
  | .attempt _ _ => isFalse id

/-- The timestamp and original name multer stores a request's file part under in `user_files`:
for a create that `authenticateToken` lets through, with its part in the field `file`. A name too
long for the file system is drawn too, though nothing is written under it. -/
def storedName (P : Platform) (now : Nat) : Request → Option (Nat × String)
  | .createFile authorization _ (some part) =>
    match authenticateToken P authorization with
    | .ok _ => if part.fieldname = "file" then some (now, part.originalname) else none
    | .error _ => none
  | _ => none

/-- What a step draws: the name multer stores a file under in `user_files`. -/
def multerDraw (P : Platform) (_ : Server) : Label → Option (Nat × String)
  | .arrive request now => storedName P now request
  | _ => none

/-! ### What a first segment writes -/

section Enter

variable {P : Platform} {world : World} {now : Nat} {request : Request}

/-- The first segment of a request other than an upload writes at most the file multer stores in
`user_files`, under `storedName`. -/
theorem enter_disk (notUpload : ∀ file, request ≠ .upload file) :
    (enter P world now request).1.disk = world.disk ∨
    ∃ authorization body part, request = .createFile authorization body (some part) ∧
      storedName P now request = some (now, part.originalname) ∧
      (enter P world now request).1.disk = world.disk.write (userFilePath P now part) part.content := by
  cases request with
  | createFile authorization body file =>
    cases authed : authenticateToken P authorization with
    | error response => exact .inl (by simp [enter, authed])
    | ok user =>
      cases file with
      | none => exact .inl (by simp [enter, authed, multerSingle])
      | some part =>
        by_cases field : part.fieldname = "file"
        · cases long : nameTooLong (diskFilename now part.originalname) with
          | true =>
            -- the path cannot be opened, and nothing is written
            exact .inl (by rw [enter_createFile_nameTooLong authed field long])
          | false =>
            refine .inr ⟨authorization, body, part, rfl, by simp [storedName, authed, field], ?_⟩
            rw [enter_createFile authed field long]
        · -- multer refuses a part in another field before it writes
          exact .inl (by simp [enter, authed, multerSingle, field])
  | upload file => exact absurd rfl (notUpload file)
  | readFile => exact .inl rfl
  | readFileById => exact .inl rfl
  | updateFile => exact .inl rfl
  | deleteFile => exact .inl rfl
  | register => exact .inl rfl
  | login => exact .inl rfl

/-- A create that stands at its check after its first segment had its part stored by multer. -/
theorem storedName_of_await {authorization : Option String} {body : Body} {part : UploadPart}
    {wait : Wait} (entered : (enter P world now (.createFile authorization body (some part))).2 =
      .await wait) :
    storedName P now (.createFile authorization body (some part)) = some (now, part.originalname) := by
  cases authed : authenticateToken P authorization with
  | error response => simp [enter, authed] at entered
  | ok user =>
    by_cases field : part.fieldname = "file"
    · simp [storedName, authed, field]
    · simp [enter, authed, multerSingle, field] at entered

/-- A request holds a path after its first segment only as a create, at the path where multer
stored its part. -/
theorem enter_heldPath {path : String} (held : heldPath (enter P world now request).2 = some path) :
    ∃ authorization body part, request = .createFile authorization body (some part) ∧
      path = userFilePath P now part ∧ storedName P now request = some (now, part.originalname) ∧
      (enter P world now request).1.disk = world.disk.write (userFilePath P now part) part.content := by
  cases entered : (enter P world now request).2 with
  | respond response => rw [entered] at held; cases held
  | unhandled => rw [entered] at held; cases held
  | await wait =>
    rw [entered] at held
    rcases enter_eq_await entered with
      ⟨authorization, body, part, fileName, rfl, rfl, written⟩ | ⟨_, _, rfl⟩ | ⟨_, _, _, rfl⟩ |
      ⟨_, _, _, _, _, _, rfl⟩ | ⟨_, _, _, rfl⟩ | ⟨_, _, _, _, rfl⟩ | ⟨_, _, _, rfl⟩ | ⟨_, _, rfl, _⟩
    · exact ⟨authorization, body, part, rfl, (Option.some.inj held).symm,
        storedName_of_await entered, written⟩
    all_goals cases held

theorem enter_not_inUpdate (notUpdate : NotUpdate request) : ¬ InUpdate (enter P world now request).2 := by
  intro inUpdate
  cases entered : (enter P world now request).2 with
  | respond response => rw [entered] at inUpdate; exact inUpdate
  | unhandled => rw [entered] at inUpdate; exact inUpdate
  | await wait =>
    rw [entered] at inUpdate
    -- only `updateFile` enters its handler's `findById`
    rcases enter_eq_await entered with
      ⟨_, _, _, _, _, rfl, _⟩ | ⟨_, _, rfl⟩ | ⟨_, _, _, rfl⟩ | ⟨_, _, _, _, _, rfl, rfl⟩ |
      ⟨_, _, _, rfl⟩ | ⟨_, _, _, _, rfl⟩ | ⟨_, _, _, rfl⟩ | ⟨_, _, rfl, _⟩
    · exact inUpdate
    · exact inUpdate
    · exact inUpdate
    · exact notUpdate
    · exact inUpdate
    · exact inUpdate
    · exact inUpdate
    · exact inUpdate

end Enter

/-! ### What a later segment does to the paths -/

/-- **What a segment does to the paths.** Resumed outside `updateFile`, a segment keeps the
collection and the disk, with the request keeping its path or letting it go; or saves the document
that records the request's path; or unlinks the path of the document `deleteFile` found; or
removes a document. It leaves the request outside `updateFile`. -/
theorem resumeWait_shape {P : Platform} {world world' : World} {env : Env} {wait : Wait}
    {progress : Outcome Wait} (resumed : resumeWait P world env wait = (world', progress))
    (notUpdating : ¬ InUpdate (.await wait)) :
    ¬ InUpdate progress ∧
    ((world'.files = world.files ∧ world'.disk = world.disk ∧
        (heldPath progress = none ∨ heldPath progress = heldPath (.await wait))) ∨
      (∃ id file, heldPath (.await wait) = some file.filePath ∧ heldPath progress = none ∧
        world'.files = Table.insert world.files id file ∧ world'.disk = world.disk) ∨
      (∃ docId objectId file, wait = .file (.deleteFinding docId) ∧
        findById world.files docId env.settle = .ok (some (objectId, file)) ∧
        (objectId, file) ∈ world.files ∧ heldPath progress = none ∧
        world'.files = world.files ∧ world'.disk = world.disk.unlinkSync file.filePath) ∨
      (∃ objectId, heldPath (.await wait) = none ∧ heldPath progress = none ∧
        world'.files = Table.erase world.files objectId ∧ world'.disk = world.disk)) := by
  cases wait with
  | file wait =>
    rw [resumeWait_file, Prod.mk.injEq] at resumed
    obtain ⟨rfl, rfl⟩ := resumed
    rcases fileResume_cases P world env wait with
      ⟨response, same⟩ | ⟨fileName, filePath, rfl, _, _, same⟩ | ⟨id, file, rfl, _, same⟩ |
      ⟨_, _, _, _, _, rfl, _, _⟩ | ⟨_, _, _, _, rfl, _, _, _⟩ |
      ⟨docId, objectId, file, rfl, found, lookedUp, _, same⟩ | ⟨objectId, file, rfl, _, same⟩
    · rw [same]
      exact ⟨fun inUpdate => inUpdate, .inl ⟨rfl, rfl, .inl rfl⟩⟩
    · -- the create draws the document's id and keeps its path
      rw [same]
      exact ⟨fun inUpdate => inUpdate, .inl ⟨rfl, rfl, .inr rfl⟩⟩
    · rw [same]
      exact ⟨fun inUpdate => inUpdate, .inr (.inl ⟨id, file, rfl, rfl, rfl, rfl⟩)⟩
    · exact absurd trivial notUpdating
    · exact absurd trivial notUpdating
    · rw [same]
      exact ⟨fun inUpdate => inUpdate, .inr (.inr (.inl ⟨docId, objectId, file, rfl, found,
        (Table.get_eq_some lookedUp).1, rfl, rfl, rfl⟩))⟩
    · rw [same]
      exact ⟨fun inUpdate => inUpdate, .inr (.inr (.inr ⟨objectId, rfl, rfl, rfl, rfl⟩))⟩
  | user wait =>
    rw [resumeWait_user, Prod.mk.injEq] at resumed
    obtain ⟨rfl, rfl⟩ := resumed
    exact ⟨not_inUpdate_user _,
      .inl ⟨userResume_files .., userResume_disk .., .inl (heldPath_user _)⟩⟩
  | upload wait =>
    rw [resumeWait_upload, Prod.mk.injEq] at resumed
    obtain ⟨rfl, rfl⟩ := resumed
    exact ⟨not_inUpdate_upload _,
      .inl ⟨uploadResume_files .., uploadResume_disk .., .inl (heldPath_upload _)⟩⟩

/-! ### The invariant -/

/-- `path` is where multer stored the file part of `request`, a create, under a name drawn in
`past`, and `bytes` are that part's. -/
def StoredFor (P : Platform) (past : List (Nat × String)) (request : Request) (path : String)
    (bytes : List UInt8) : Prop :=
  ∃ authorization body part now, request = .createFile authorization body (some part) ∧
    (now, part.originalname) ∈ past ∧ path = userFilePath P now part ∧ bytes = part.content

/-- **The documents own their files.** -/
structure PathsOwned (P : Platform) (past : List (Nat × String)) (server : Server) : Prop where
  keyed : ThreadsKeyed server
  noUpdate : ∀ entry ∈ server.threads, ¬ InUpdate entry.2.progress
  distinct : (heldPaths server).Nodup
  pending : ∀ entry ∈ server.threads, ∀ path, heldPath entry.2.progress = some path →
    ∃ bytes, StoredFor P past entry.2.request path bytes ∧ server.world.disk path = some bytes
  documents : ∀ entry ∈ server.world.files, ∃ thread ∈ server.threads, ∃ bytes,
    StoredFor P past thread.2.request entry.2.filePath bytes ∧
    (server.world.disk entry.2.filePath = some bytes ∨ server.world.disk entry.2.filePath = none)

section Owned

variable {P : Platform} {past : List (Nat × String)} {server : Server}

theorem StoredFor.mono {past' : List (Nat × String)} {request : Request} {path : String}
    {bytes : List UInt8} (stored : StoredFor P past request path bytes) (sub : past ⊆ past') :
    StoredFor P past' request path bytes := by
  obtain ⟨authorization, body, part, now, same, drawn, atPath, content⟩ := stored
  exact ⟨authorization, body, part, now, same, sub drawn, atPath, content⟩

/-- A path stored under a name of `past` is not where multer stores a name outside `past`. -/
theorem StoredFor.ne_of_not_mem {request : Request} {path : String} {bytes : List UInt8}
    {now : Nat} {name : String} (stored : StoredFor P past request path bytes)
    (fresh : (now, name) ∉ past) : path ≠ storagePath (uploadDirectory P.appDir) now name := by
  obtain ⟨_, _, part, stamp, _, drawn, rfl, _⟩ := stored
  intro same
  obtain ⟨rfl, rfl⟩ := storagePath_inj.mp same
  exact fresh drawn

theorem pathsOwned_initial (P : Platform) (disk : Disk) : PathsOwned P [] (initial disk) where
  keyed := threadsKeyed_initial
  noUpdate := fun _ member => by simp [initial] at member
  distinct := by simp [heldPaths, initial, Table.collect, Table.column]
  pending := fun _ member => by simp [initial] at member
  documents := fun _ member => by simp [initial] at member

/-- Every path held is stored under a name of `past`. -/
theorem PathsOwned.stored_of_mem (owned : PathsOwned P past server) {path : String}
    (held : path ∈ heldPaths server) : ∃ request bytes, StoredFor P past request path bytes := by
  rcases List.mem_append.mp held with pending | document
  · obtain ⟨entry, member, holds⟩ := Table.mem_collect.mp pending
    obtain ⟨bytes, stored, _⟩ := owned.pending entry member path holds
    exact ⟨entry.2.request, bytes, stored⟩
  · obtain ⟨entry, member, rfl⟩ := Table.mem_column.mp document
    obtain ⟨thread, _, bytes, stored, _⟩ := owned.documents entry member
    exact ⟨thread.2.request, bytes, stored⟩

/-- **An arrival keeps the invariant** when the name multer stores its part under is new: the only
path it writes is that one, which nothing holds yet. -/
theorem pathsOwned_arrive (owned : PathsOwned P past server) {request : Request} {now : Nat}
    (allowed : WithoutUpdate (.arrive request now))
    (fresh : ∀ name ∈ (storedName P now request).toList, name ∉ past) :
    PathsOwned P (past ++ (storedName P now request).toList)
      ⟨(enter P server.world now request).1,
        Table.insert server.threads server.nextRequestId ⟨request, (enter P server.world now request).2⟩,
        server.nextRequestId + 1⟩ := by
  have notUpload : ∀ file, request ≠ .upload file := by
    rintro file rfl
    exact allowed
  have notUpdate : NotUpdate request := by
    cases request <;> first | exact allowed | trivial
  have kept : afterEnter (enter P server.world now request).2 server.threads = server.threads :=
    afterEnter_enter_of_ne (by rintro _ _ _ rfl; exact allowed) _
  have sub : past ⊆ past ++ (storedName P now request).toList := List.subset_append_left _ _
  -- the disk changes at most at the path of the new name, which no path stored before is
  have frame : ∀ path, (∃ request' bytes, StoredFor P past request' path bytes) →
      (enter P server.world now request).1.disk path = server.world.disk path := by
    rintro path ⟨request', bytes, stored⟩
    rcases enter_disk notUpload with same | ⟨authorization, body, part, rfl, named, written⟩
    · rw [same]
    · rw [written]
      exact Disk.write_other _ _ (stored.ne_of_not_mem (fresh _ (by simp [named])))
  refine ⟨threadsKeyed_step owned.keyed (by rw [step_arrive, kept]), ?_, ?_, ?_, ?_⟩
  · intro entry member
    rcases Table.mem_insert.mp member with old | rfl
    · exact owned.noUpdate entry old
    · exact enter_not_inUpdate notUpdate
  · show (Table.collect _ (Table.insert server.threads _ _) ++
      Table.column _ (enter P server.world now request).1.files).Nodup
    rw [Table.collect_insert, enter_files]
    cases held : heldPath (enter P server.world now request).2 with
    | none => simpa [heldPaths] using owned.distinct
    | some path =>
      -- a create that stands at its check holds the new path
      obtain ⟨authorization, body, part, rfl, rfl, named, _⟩ := enter_heldPath held
      have notHeld : userFilePath P now part ∉ heldPaths server := by
        intro member
        obtain ⟨_, _, stored⟩ := owned.stored_of_mem member
        exact stored.ne_of_not_mem (fresh _ (by simp [named])) rfl
      rw [Option.toList_some, List.append_assoc, List.singleton_append, List.nodup_middle,
        List.nodup_cons]
      exact ⟨notHeld, owned.distinct⟩
  · intro entry member path holds
    rcases Table.mem_insert.mp member with old | rfl
    · obtain ⟨bytes, stored, present⟩ := owned.pending entry old path holds
      exact ⟨bytes, stored.mono sub, by rw [frame path ⟨_, _, stored⟩]; exact present⟩
    · obtain ⟨authorization, body, part, rfl, rfl, named, written⟩ := enter_heldPath holds
      refine ⟨part.content, ⟨authorization, body, part, now, rfl, by simp [named], rfl, rfl⟩, ?_⟩
      rw [written, Disk.write_self]
  · intro entry member
    rw [enter_files] at member
    obtain ⟨thread, inThreads, bytes, stored, present⟩ := owned.documents entry member
    refine ⟨thread, Table.mem_insert.mpr (.inl inThreads), bytes, stored.mono sub, ?_⟩
    rw [frame _ ⟨_, _, stored⟩]
    exact present

section Resume

variable {id : Nat} {request : Request} {wait : Wait} {progress : Outcome Wait}

/-- The requests in flight after a resume find their bytes, when the resumed request holds no new
path and the disk is as it was at every path a request in flight holds. -/
theorem pending_set (owned : PathsOwned P past server)
    (found : Table.get server.threads id = some (id, ⟨request, .await wait⟩)) (disk' : Disk)
    (sameDisk : ∀ entry ∈ server.threads, ∀ path, heldPath entry.2.progress = some path →
      disk' path = server.world.disk path)
    (kept : heldPath progress = none ∨ heldPath progress = heldPath (.await wait)) :
    ∀ entry ∈ Table.set server.threads id ⟨request, progress⟩, ∀ path,
      heldPath entry.2.progress = some path →
      ∃ bytes, StoredFor P past entry.2.request path bytes ∧ disk' path = some bytes := by
  have member := (Table.get_eq_some found).1
  intro entry inSet path holds
  rcases Table.mem_set inSet with ⟨old, _⟩ | rfl
  · obtain ⟨bytes, stored, present⟩ := owned.pending entry old path holds
    exact ⟨bytes, stored, by rw [sameDisk entry old path holds]; exact present⟩
  · change heldPath progress = some path at holds
    rcases kept with released | kept
    · rw [released] at holds
      cases holds
    · have before : heldPath (.await wait) = some path := kept ▸ holds
      obtain ⟨bytes, stored, present⟩ := owned.pending _ member path before
      exact ⟨bytes, stored, by rw [sameDisk _ member path before]; exact present⟩

/-- The documents of a resume find their bytes or nothing, when they are documents from before
and the disk at each of their paths is as it was or empty. -/
theorem documents_set (owned : PathsOwned P past server)
    (found : Table.get server.threads id = some (id, ⟨request, .await wait⟩))
    (files' : List (ObjectId × FileDoc)) (disk' : Disk)
    (sub : ∀ entry ∈ files', entry ∈ server.world.files)
    (sameDisk : ∀ entry ∈ server.world.files, disk' entry.2.filePath = server.world.disk entry.2.filePath ∨
      disk' entry.2.filePath = none) :
    ∀ entry ∈ files', ∃ thread ∈ Table.set server.threads id ⟨request, progress⟩, ∃ bytes,
      StoredFor P past thread.2.request entry.2.filePath bytes ∧
      (disk' entry.2.filePath = some bytes ∨ disk' entry.2.filePath = none) := by
  intro entry member
  obtain ⟨thread, inThreads, bytes, stored, present⟩ := owned.documents entry (sub entry member)
  have moved : ∃ thread' ∈ Table.set server.threads id ⟨request, progress⟩,
      thread'.2.request = thread.2.request := request_mem_set owned.keyed.distinct found progress inThreads
  obtain ⟨thread', inSet, sameRequest⟩ := moved
  refine ⟨thread', inSet, bytes, sameRequest ▸ stored, ?_⟩
  rcases sameDisk entry (sub entry member) with same | removed
  · rw [same]
    exact present
  · exact .inr removed

/-- A resume holds no path that was not held before: it keeps a path, moves it from the request
to the document it saves, or lets it go. -/
theorem heldPaths_resume_subperm (owned : PathsOwned P past server) {env : Env} {world' : World}
    (found : Table.get server.threads id = some (id, ⟨request, .await wait⟩))
    (resumed : resumeWait P server.world env wait = (world', progress)) :
    (heldPaths ⟨world', Table.set server.threads id ⟨request, progress⟩, server.nextRequestId⟩).Subperm
      (heldPaths server) := by
  have notUpdating := owned.noUpdate _ (Table.get_eq_some found).1
  have traded := Table.collect_set_perm (fun thread : Thread => heldPath thread.progress)
    ⟨request, progress⟩ owned.keyed.distinct found
  simp only at traded
  unfold heldPaths
  simp only
  rcases (resumeWait_shape resumed notUpdating).2 with
    ⟨sameFiles, _, released | kept⟩ | ⟨_, file, held, released, savedFiles, _⟩ |
    ⟨docId, _, _, rfl, _, _, released, sameFiles, _⟩ | ⟨objectId, held, released, erased, _⟩
  · rw [released, Option.toList_none, List.append_nil] at traded
    rw [sameFiles]
    refine List.Subperm.trans ?_ (traded.append_right _).subperm
    exact ((List.sublist_append_left _ _).append_right _).subperm
  · rw [kept, List.perm_append_right_iff] at traded
    rw [sameFiles]
    exact (traded.append_right _).subperm
  · -- the saved document takes over the request's path
    rw [held, released, Option.toList_some, Option.toList_none, List.append_nil] at traded
    rw [savedFiles, Table.column_insert, ← List.append_assoc]
    have moved : (Table.collect (fun thread : Thread => heldPath thread.progress)
        (Table.set server.threads id ⟨request, progress⟩) ++
          Table.column FileDoc.filePath server.world.files ++ [file.filePath]).Perm
        (Table.collect (fun thread : Thread => heldPath thread.progress)
          (Table.set server.threads id ⟨request, progress⟩) ++ [file.filePath] ++
          Table.column FileDoc.filePath server.world.files) := by
      rw [List.append_assoc, List.append_assoc]
      exact List.perm_append_comm.append_left _
    exact (moved.trans (traded.append_right _)).subperm
  · have held : heldPath (.await (.file (.deleteFinding docId))) = none := rfl
    rw [held, released, Option.toList_none, List.append_nil, List.append_nil] at traded
    rw [sameFiles]
    exact (traded.append_right _).subperm
  · rw [held, released, Option.toList_none, List.append_nil, List.append_nil] at traded
    rw [erased]
    exact ((traded.append_right _).subperm).trans
      ((Table.column_erase_sublist _ _ _).append_left _).subperm

/-- **A resume keeps the invariant.** -/
theorem pathsOwned_resume (owned : PathsOwned P past server) {env : Env}
    (found : Table.get server.threads id = some (id, ⟨request, .await wait⟩)) :
    PathsOwned P past { server with
      world := (resumeWait P server.world env wait).1
      threads := Table.set server.threads id ⟨request, (resumeWait P server.world env wait).2⟩ } := by
  rcases resumed : resumeWait P server.world env wait with ⟨world', progress⟩
  have member := (Table.get_eq_some found).1
  obtain ⟨notUpdating, shape⟩ := resumeWait_shape resumed (owned.noUpdate _ member)
  have keyed : ThreadsKeyed ⟨world', Table.set server.threads id ⟨request, progress⟩,
      server.nextRequestId⟩ :=
    ⟨by simpa using owned.keyed.distinct, by simpa using owned.keyed.below⟩
  have noUpdate : ∀ entry ∈ Table.set server.threads id ⟨request, progress⟩,
      ¬ InUpdate entry.2.progress := by
    intro entry inSet
    rcases Table.mem_set inSet with ⟨old, _⟩ | rfl
    · exact owned.noUpdate entry old
    · exact notUpdating
  have distinct : (heldPaths ⟨world', Table.set server.threads id ⟨request, progress⟩,
      server.nextRequestId⟩).Nodup := by
    obtain ⟨middle, perm, sub⟩ := heldPaths_resume_subperm owned found resumed
    exact perm.nodup_iff.mp (owned.distinct.sublist sub)
  rcases shape with ⟨sameFiles, sameDisk, kept⟩ |
    ⟨savedId, file, held, released, savedFiles, sameDisk⟩ |
    ⟨docId, objectId, file, rfl, _, inFiles, released, sameFiles, unlinked⟩ |
    ⟨objectId, _, released, erased, sameDisk⟩
  · refine ⟨keyed, noUpdate, distinct,
      pending_set owned found world'.disk (fun _ _ _ _ => by rw [sameDisk]) kept, ?_⟩
    exact documents_set owned found world'.files world'.disk (fun _ member => sameFiles ▸ member)
      (fun _ _ => .inl (by rw [sameDisk]))
  · refine ⟨keyed, noUpdate, distinct,
      pending_set owned found world'.disk (fun _ _ _ _ => by rw [sameDisk]) (.inl released), ?_⟩
    intro entry inFiles
    have saved : entry ∈ Table.insert server.world.files savedId file := savedFiles ▸ inFiles
    rcases Table.mem_insert.mp saved with old | rfl
    · exact documents_set owned found server.world.files world'.disk (fun _ member => member)
        (fun _ _ => .inl (by rw [sameDisk])) entry old
    · -- the saved document finds the bytes its create found
      obtain ⟨bytes, stored, present⟩ := owned.pending _ member _ held
      refine ⟨(id, ⟨request, progress⟩), Table.mem_set_self _ (List.mem_map_of_mem member), bytes,
        stored, .inl ?_⟩
      rw [sameDisk]
      exact present
  · -- `deleteFile` unlinks a document's path, which no request in flight holds
    have apart : ∀ entry ∈ server.threads, ∀ path, heldPath entry.2.progress = some path →
        world'.disk path = server.world.disk path := by
      intro entry inThreads path holds
      have notDocument : path ≠ file.filePath := by
        rintro rfl
        exact List.disjoint_of_nodup_append owned.distinct
          (Table.mem_collect.mpr ⟨entry, inThreads, holds⟩) (Table.mem_column.mpr ⟨_, inFiles, rfl⟩)
      rw [unlinked, Disk.unlinkSync_other _ notDocument]
    refine ⟨keyed, noUpdate, distinct, pending_set owned found world'.disk apart (.inl released), ?_⟩
    refine documents_set owned found world'.files world'.disk (fun _ member => sameFiles ▸ member) ?_
    intro entry _
    by_cases same : entry.2.filePath = file.filePath
    · exact .inr (by rw [unlinked, same, Disk.unlinkSync_self])
    · exact .inl (by rw [unlinked, Disk.unlinkSync_other _ same])
  · refine ⟨keyed, noUpdate, distinct,
      pending_set owned found world'.disk (fun _ _ _ _ => by rw [sameDisk]) (.inl released), ?_⟩
    exact documents_set owned found world'.files world'.disk
      (fun _ member => (Table.mem_erase.mp (erased ▸ member)).1) (fun _ _ => .inl (by rw [sameDisk]))

end Resume

/-- **Every step outside `updateFile` and the upload pipeline keeps the invariant**, when the
name multer stores a part under is new. -/
theorem pathsOwned_step {server' : Server} {label : Label} (owned : PathsOwned P past server)
    (allowed : WithoutUpdate label) (stepped : step P server label = some server')
    (fresh : ∀ name ∈ (multerDraw P server label).toList, name ∉ past) :
    PathsOwned P (past ++ (multerDraw P server label).toList) server' := by
  cases label with
  | arrive request now =>
    rw [step_arrive, afterEnter_enter_of_ne (by rintro _ _ _ rfl; exact allowed)] at stepped
    cases stepped
    exact pathsOwned_arrive owned allowed fresh
  | resume id env =>
    obtain ⟨request, wait, found, rfl⟩ := step_resume_eq_some stepped
    -- a resume draws no name
    show PathsOwned P (past ++ []) _
    rw [List.append_nil]
    exact pathsOwned_resume owned found
  | attempt jobId now => exact allowed.elim

/-- **Only `deleteFile` removes a file.** A step outside `updateFile` after which a path that held
a file holds nothing is the resume of a `deleteFile` at `findById`, and the path is the `filePath`
of the document it found. -/
theorem removed_by_delete {server' : Server} {label : Label} {path : String}
    (owned : PathsOwned P past server) (allowed : WithoutUpdate label)
    (stepped : step P server label = some server') (present : server.world.disk path ≠ none)
    (removed : server'.world.disk path = none) :
    ∃ id env docId request entry, label = .resume id env ∧
      Table.get server.threads id = some (id, ⟨request, .await (.file (.deleteFinding docId))⟩) ∧
      findById server.world.files docId env.settle = .ok (some entry) ∧
      entry ∈ server.world.files ∧ entry.2.filePath = path := by
  cases label with
  | arrive request now =>
    rw [step_arrive] at stepped
    cases stepped
    have notUpload : ∀ file, request ≠ .upload file := by
      rintro file rfl
      exact allowed
    -- a first segment writes, and never unlinks
    rcases enter_disk notUpload with same | ⟨_, _, part, _, _, written⟩
    · exact absurd (same ▸ removed) present
    · by_cases here : path = userFilePath P now part
      · have stored : (enter P server.world now request).1.disk path = some part.content := by
          rw [written, here, Disk.write_self]
        rw [stored] at removed
        cases removed
      · rw [written, Disk.write_other _ _ here] at removed
        exact absurd removed present
  | resume id env =>
    obtain ⟨request, wait, found, rfl⟩ := step_resume_eq_some stepped
    rcases resumed : resumeWait P server.world env wait with ⟨world', progress⟩
    have removed' : world'.disk path = none := by
      rw [resumed] at removed
      exact removed
    obtain ⟨_, shape⟩ := resumeWait_shape resumed (owned.noUpdate _ (Table.get_eq_some found).1)
    rcases shape with ⟨_, same, _⟩ | ⟨_, _, _, _, _, same⟩ |
      ⟨docId, objectId, file, rfl, lookedUp, member, _, _, unlinked⟩ | ⟨_, _, _, _, same⟩
    · exact absurd (same ▸ removed') present
    · exact absurd (same ▸ removed') present
    · refine ⟨id, env, docId, request, (objectId, file), rfl, found, lookedUp, member, ?_⟩
      by_contra other
      rw [unlinked, Disk.unlinkSync_other _ (Ne.symm other)] at removed'
      exact present removed'
    · exact absurd (same ▸ removed') present
  | attempt jobId now => exact allowed.elim

end Owned

/-- **In every run outside `updateFile` and the upload pipeline whose stored names are distinct,
the documents own their files.** -/
theorem pathsOwned_run {P : Platform} {disk : Disk} {labels : List Label} {final : Server}
    (allowed : ∀ label ∈ labels, WithoutUpdate label)
    (ran : Transition.run (step P) (initial disk) labels = some final)
    (distinct : (Transition.drawsAlong (step P) (multerDraw P) (initial disk) labels).Nodup) :
    PathsOwned P (Transition.drawsAlong (step P) (multerDraw P) (initial disk) labels) final := by
  have kept := Transition.run_invariant_fresh (step P) (multerDraw P) WithoutUpdate (PathsOwned P)
    (fun _ _ _ _ allowed owned stepped fresh => pathsOwned_step owned allowed stepped fresh)
    labels [] (initial disk) final allowed (pathsOwned_initial P disk) ran
    (by rwa [List.nil_append])
  rwa [List.nil_append] at kept

/-! ### Documents and their files -/

/-- A path in the directory `user_files`: a base name joined to it. -/
def InUserFiles (P : Platform) (path : String) : Prop :=
  ∃ name, IsBasename name ∧ path = pathJoin (uploadDirectory P.appDir) name

/-- `bytes` were uploaded to `path` by a create that has arrived at `server`: multer stored its
part there. -/
def UploadedTo (P : Platform) (server : Server) (path : String) (bytes : List UInt8) : Prop :=
  ∃ thread ∈ server.threads, ∃ authorization body part now,
    thread.2.request = .createFile authorization body (some part) ∧
    path = userFilePath P now part ∧ bytes = part.content

theorem StoredFor.inUserFiles {P : Platform} {past : List (Nat × String)} {request : Request}
    {path : String} {bytes : List UInt8} (stored : StoredFor P past request path bytes) :
    InUserFiles P path := by
  obtain ⟨_, _, part, now, _, _, rfl, _⟩ := stored
  exact ⟨diskFilename now part.originalname, diskFilename_isBasename now part.basename, rfl⟩

theorem StoredFor.uploadedTo {P : Platform} {past : List (Nat × String)} {server : Server}
    {thread : Nat × Thread} {path : String} {bytes : List UInt8} (member : thread ∈ server.threads)
    (stored : StoredFor P past thread.2.request path bytes) : UploadedTo P server path bytes := by
  obtain ⟨authorization, body, part, now, same, _, atPath, content⟩ := stored
  exact ⟨thread, member, authorization, body, part, now, same, atPath, content⟩

/-- **Every document owns the file multer stored for it.** In every run that arrives at no
`updateFile` and no upload, and in which multer stores no two parts in `user_files` under one
timestamp and original name: the documents' paths are distinct, inside `user_files`, and each
holds the bytes uploaded for it or nothing; and a step that removes a file is the `deleteFile`
of the one document with that path, which no create in flight holds, and it removes the bytes
uploaded for that document. -/
theorem filePaths_owned {P : Platform} {disk : Disk} {labels : List Label} {final : Server}
    (withoutUpdate : ∀ label ∈ labels, WithoutUpdate label)
    (ran : Transition.run (step P) (initial disk) labels = some final)
    (distinctNames : (Transition.drawsAlong (step P) (multerDraw P) (initial disk) labels).Nodup) :
    (Table.column FileDoc.filePath final.world.files).Nodup ∧
    (∀ entry ∈ final.world.files, InUserFiles P entry.2.filePath ∧ ∃ bytes,
      UploadedTo P final entry.2.filePath bytes ∧
      (final.world.disk entry.2.filePath = some bytes ∨ final.world.disk entry.2.filePath = none)) ∧
    ∀ (label : Label) (server' : Server) (path : String), WithoutUpdate label →
      step P final label = some server' → final.world.disk path ≠ none →
      server'.world.disk path = none →
      ∃ id env docId request entry, label = .resume id env ∧
        Table.get final.threads id = some (id, ⟨request, .await (.file (.deleteFinding docId))⟩) ∧
        findById final.world.files docId env.settle = .ok (some entry) ∧
        entry.2.filePath = path ∧
        (∀ other ∈ final.world.files, other.2.filePath = path → other = entry) ∧
        path ∉ Table.collect (fun thread : Thread => heldPath thread.progress) final.threads ∧
        InUserFiles P path ∧ ∃ bytes, UploadedTo P final path bytes ∧
          final.world.disk path = some bytes := by
  have owned := pathsOwned_run withoutUpdate ran distinctNames
  have documentsDistinct : (Table.column FileDoc.filePath final.world.files).Nodup :=
    (List.nodup_append.mp owned.distinct).2.1
  refine ⟨documentsDistinct, fun entry member => ?_, ?_⟩
  · obtain ⟨thread, inThreads, bytes, stored, onDisk⟩ := owned.documents entry member
    exact ⟨stored.inUserFiles, bytes, stored.uploadedTo inThreads, onDisk⟩
  · intro label server' path allowed stepped present removed
    obtain ⟨id, env, docId, request, entry, rfl, found, lookedUp, member, rfl⟩ :=
      removed_by_delete owned allowed stepped present removed
    obtain ⟨thread, inThreads, bytes, stored, onDisk⟩ := owned.documents entry member
    refine ⟨id, env, docId, request, entry, rfl, found, lookedUp, rfl, ?_, ?_, stored.inUserFiles,
      bytes, stored.uploadedTo inThreads, onDisk.resolve_right present⟩
    · -- the document is the only one with its path
      intro other otherMember same
      exact List.inj_on_of_nodup_map documentsDistinct otherMember member same
    · -- and no create in flight holds it
      intro pending
      exact List.disjoint_of_nodup_append owned.distinct pending
        (Table.mem_column.mpr ⟨entry, member, rfl⟩)

/-- Create `a.txt`, `b.txt`, then delete the first, one request at a time. -/
def createThenDelete : List Label :=
  sequentialLabels 0
    [(createNamed "a.txt", 1, [⟨.resolve, 1, ""⟩, ⟨.resolve, 1, ""⟩]),
      (createNamed "b.txt", 2, [⟨.resolve, 2, ""⟩, ⟨.resolve, 2, ""⟩]),
      (.deleteFile (bearer 0) "0", 3, [⟨.resolve, 3, ""⟩, ⟨.resolve, 3, ""⟩])]

theorem filePaths_owned_standIn :
    (∀ label ∈ createThenDelete, WithoutUpdate label) ∧
    (Transition.drawsAlong (step standIn) (multerDraw standIn) (initial fun _ => none)
      createThenDelete).Nodup ∧
    ∃ final, Transition.run (step standIn) (initial fun _ => none) createThenDelete = some final ∧
      (Table.column FileDoc.filePath final.world.files).Nodup := by
  obtain ⟨final, ran⟩ := Option.isSome_iff_exists.mp (by decide :
    (Transition.run (step standIn) (initial fun _ => none) createThenDelete).isSome)
  exact ⟨by decide, by decide, final, ran, (filePaths_owned (by decide) ran (by decide)).1⟩

/-- A disk with a file outside `user_files`. -/
def passwdDisk : Disk := Disk.write (fun _ => none) "/etc/passwd" [114, 111, 111, 116]

/-- Create `a.txt`, point its document at `/etc/passwd` with `updateFile`, then delete it, one
request at a time. -/
def updateThenDelete : List Label :=
  sequentialLabels 0
    [(createNamed "a.txt", 1, [⟨.resolve, 1, ""⟩, ⟨.resolve, 1, ""⟩]),
      (.updateFile (bearer 0) "0" [("fileName", .string "a.txt"), ("filePath", .string "/etc/passwd")],
        2, [⟨.resolve, 2, ""⟩, ⟨.resolve, 2, ""⟩]),
      (.deleteFile (bearer 0) "0", 3, [⟨.resolve, 3, ""⟩, ⟨.resolve, 3, ""⟩])]

/-- Two creates whose parts, both named `a.txt`, are stored in one millisecond, then the delete of
the first document. -/
def sameMillisecond : List Label :=
  sequentialLabels 0
    [(createNamed "a.txt", 1, [⟨.resolve, 1, ""⟩, ⟨.resolve, 1, ""⟩]),
      (createNamed "b.txt", 1, [⟨.resolve, 1, ""⟩, ⟨.resolve, 1, ""⟩]),
      (.deleteFile (bearer 0) "0", 2, [⟨.resolve, 2, ""⟩, ⟨.resolve, 2, ""⟩])]

/-- **Documents do not own their files in general.** A rename by `updateFile`, then a delete,
unlinks `/etc/passwd`; and after two creates in one millisecond, the delete of the first removes
the file of the second document, which stays. -/
theorem filePaths_owned_fails :
    passwdDisk "/etc/passwd" = some [114, 111, 111, 116] ∧
    (Transition.run (step standIn) (initial passwdDisk) updateThenDelete).map
        (fun server : Server => server.world.disk "/etc/passwd") = some none ∧
    (Transition.run (step standIn) (initial fun _ => none) sameMillisecond).map
        (fun server : Server => (Table.column FileDoc.fileName server.world.files,
          server.world.disk (userFilePath standIn 1 ⟨"file", "a.txt", "text/plain", [1], by decide⟩))) =
      some (["b.txt"], none) := by
  refine ⟨rfl, ?_, ?_⟩
  · decide
  · decide

end FileManager
