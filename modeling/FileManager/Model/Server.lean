import FileManager.Model.FileController
import FileManager.Model.UserController
import FileManager.Model.Upload
import FileManager.Library.Run

/-!
**The server of `server.js`: every route, every request in flight, the queue's processor.**

Node runs one segment of one handler at a time; between two segments of a request, any other
request may run a segment, and the queue may run an attempt. The state is the `World` together
with the requests that have arrived, each with the `Wait` it stands at or the way it ended. A
step is one of:

* `arrive request now` — a request reaches the server and runs its middleware and its handler up
  to the first `await` (`enter`): `authenticateToken` and multer for `/files`, multer for
  `/api/uploads/upload`; `now` is what `Date.now()` reads for multer's file name;
* `resume id env` — the awaited call of request `id` settles as `env` says, and the request runs
  its next segment (`resumeWait`);
* `attempt jobId now` — the processor of `fileUploadQueue` runs one attempt at a waiting job.

A first segment that ends in a rejection nobody handles (`updateFile`'s `validateFile`, which
throws before its `try`) makes Node exit (`afterEnter`). The server is restarted with the world as
it is; every request still waiting is dropped without an answer, and the call it awaited with it:
a write the database would still complete is not modelled.

`step` is deterministic given the label; every choice of the environment is in the labels, so
`Transition.run (step P)` gives every interleaving.

The file routes pass `authenticateToken`'s `req.user` to no handler: `authorized` keeps only
whether the request was let through.
-/

namespace FileManager

/-- Where a request can wait: at an `await` of its route's handler. -/
inductive Wait
  | file (wait : FileWait)
  | user (wait : UserWait)
  | upload (wait : UploadWait)
  deriving DecidableEq, Repr

/-- The result of a segment, with its wait lifted. -/
def Outcome.map {α β : Type} (f : α → β) : Outcome α → Outcome β
  | .await wait => .await (f wait)
  | .respond response => .respond response
  | .unhandled => .unhandled

/-- A request that has arrived: what was sent, and where it stands. -/
structure Thread where
  request : Request
  progress : Outcome Wait

/-- The server: the world, and the requests that have arrived, numbered in order of arrival. -/
structure Server where
  world : World
  threads : List (Nat × Thread)
  nextRequestId : Nat

/-- A step of the server. -/
inductive Label
  | arrive (request : Request) (now : Nat)
  | resume (id : Nat) (env : Env)
  | attempt (jobId : Nat) (now : Nat)

/-- `authenticateToken` in front of a handler: the handler's first segment if it lets the request
through, the response it sends otherwise. -/
def authorized (P : Platform) (authorization : Option String) (handler : Outcome FileWait) :
    Outcome Wait :=
  match authenticateToken P authorization with
  | .error response => .respond response
  | .ok _ => handler.map .file

theorem Outcome.map_eq_await {α β : Type} {f : α → β} {outcome : Outcome α} {wait : β}
    (mapped : outcome.map f = .await wait) : ∃ inner, outcome = .await inner ∧ wait = f inner := by
  cases outcome with
  | await inner => exact ⟨inner, rfl, (Outcome.await.inj mapped).symm⟩
  | respond response => cases mapped
  | unhandled => cases mapped

/-- A file route waits only where its handler does, after `authenticateToken` let it through. -/
theorem authorized_eq_await {P : Platform} {authorization : Option String}
    {handler : Outcome FileWait} {wait : Wait} (entered : authorized P authorization handler = .await wait) :
    ∃ inner, handler = .await inner ∧ wait = .file inner := by
  unfold authorized at entered
  split at entered
  · cases entered
  · exact Outcome.map_eq_await entered

/-- The first segment of a request: its middleware, then its handler up to the first `await`. -/
def enter (P : Platform) (world : World) (now : Nat) : Request → World × Outcome Wait
  | .createFile authorization body file =>
    match authenticateToken P authorization with
    | .error response => (world, .respond response)
    | .ok _ =>
      match multerSingle "file" (uploadDirectory P.appDir) (fun _ => none) none now world.disk
          file with
      -- a multer error goes to Express's default error handler
      | (disk, .error _) => ({ world with disk }, .respond ⟨500, .errorPage⟩)
      | (disk, .next stored) => ({ world with disk }, (createFileEnter P body stored).map .file)
  | .readFile authorization => (world, authorized P authorization readFileEnter)
  | .readFileById authorization id => (world, authorized P authorization (readFileByIdEnter id))
  | .updateFile authorization id body =>
    (world, authorized P authorization (updateFileEnter P id body))
  | .deleteFile authorization id => (world, authorized P authorization (deleteFileEnter id))
  | .register username email password => (world, (registerEnter username email password).map .user)
  | .login email password => (world, (loginEnter email password).map .user)
  | .upload file =>
    match multerSingle "file" uploadsDestination fileFilter (some uploadSizeLimit) now world.disk
        file with
    | (disk, .error error) => ({ world with disk }, .respond (uploadErrorHandler error))
    | (disk, .next stored) =>
      ({ world with disk }, (initiateFileUploadEnter disk stored).map .upload)

/-- The next segment of a waiting request, once its awaited call has settled. -/
def resumeWait (P : Platform) (world : World) (env : Env) : Wait → World × Outcome Wait
  | .file wait =>
    let (world', outcome) := fileResume P world env wait
    (world', outcome.map .file)
  | .user wait =>
    let (world', outcome) := userResume P world env wait
    (world', outcome.map .user)
  | .upload wait =>
    let (world', outcome) := uploadResume world env wait
    (world', outcome.map .upload)

/-- A request in flight when the process exits: one still waiting loses its connection and ends
without an answer, with the call it awaited; one that was answered stays so. -/
def Thread.dropped (thread : Thread) : Thread :=
  match thread.progress with
  | .await _ => ⟨thread.request, .unhandled⟩
  | _ => thread

/-- The requests in flight after a first segment: as they were, unless the segment ended in a
rejection nobody handles. Node then exits, and the server restarts with the database, the disk
and the queue as they are, and every request still waiting dropped. -/
def afterEnter (progress : Outcome Wait) (threads : List (Nat × Thread)) : List (Nat × Thread) :=
  match progress with
  | .unhandled => Table.mapRows Thread.dropped threads
  | _ => threads

/-- One step of the server; `none` when the label's request is not waiting or its job is not
waiting. -/
def step (P : Platform) (server : Server) : Label → Option Server
  | .arrive request now =>
    let (world, progress) := enter P server.world now request
    some { world
           threads := Table.insert (afterEnter progress server.threads) server.nextRequestId
             ⟨request, progress⟩
           nextRequestId := server.nextRequestId + 1 }
  | .resume id env =>
    match Table.get server.threads id with
    | some (_, ⟨request, .await wait⟩) =>
      let (world, progress) := resumeWait P server.world env wait
      some { server with world, threads := Table.set server.threads id ⟨request, progress⟩ }
    | _ => none
  | .attempt jobId now =>
    (attemptJob server.world jobId now).map fun world => { server with world }

/-- The server as it starts: empty collections and queue, nothing in flight, and a disk as it is. -/
def initial (disk : Disk) : Server :=
  ⟨⟨[], [], disk, 0, [], 1⟩, [], 0⟩

/-- The response a request has been sent, if any. -/
def Server.response (server : Server) (id : Nat) : Option Response :=
  match Table.get server.threads id with
  | some (_, ⟨_, .respond response⟩) => some response
  | _ => none

end FileManager
