import FileManager.Proof.Alone

/-!
**The statuses each route sends.**

`Route.statuses` lists, route by route, every status of a `res.status(...)` the request can reach:
in its handler, in `authenticateToken`, and in multer's error handlers in front of it.
`response_statuses` says that in every reachable state, under every interleaving and however the
awaited calls settle, every request that has been answered was sent one of its route's statuses.
The requests are those whose body `express.json()` parsed: its own refusals, among them 413 and
415, come before any route and are not in the lists.
Read off the list: only the file routes send 401 and 403, since only they sit behind
`authenticateToken`; only `createFile` sends 409; an upload is answered 202, never 201; and no
route sends a status outside 200, 201, 202, 400, 401, 403, 404, 409 and 500.

* `enter_status` — a first segment answers with a status of its request's route;
* `resumeWait_status` — a later segment answers with a status of the route of the `await` it
  resumes, which is its request's (`enter_route`, `resumeWait_route`);
* `StatusesKept`, `statusesKept_step` — the invariant that carries both along every run.
-/

namespace FileManager

/-- The statuses a route sends: those of its handler, and of `authenticateToken`, multer and the
error handlers in front of it. -/
def Route.statuses : Route → List Nat
  | .createFile => [201, 400, 401, 403, 409, 500]
  | .readFile => [200, 401, 403, 404, 500]
  | .readFileById => [200, 400, 401, 403, 404, 500]
  | .updateFile => [200, 400, 401, 403, 404, 500]
  | .deleteFile => [200, 400, 401, 403, 404, 500]
  | .register => [201, 400, 500]
  | .login => [200, 400, 500]
  | .upload => [202, 400, 500]

/-! ### First segments -/

/-- `authenticateToken` refuses with 403 without a token and with 401 for one that does not
verify. -/
theorem authenticateToken_status {P : Platform} {authorization : Option String}
    {response : Response} (refused : authenticateToken P authorization = .error response) :
    response.status = 401 ∨ response.status = 403 := by
  unfold authenticateToken at refused
  split at refused
  · cases refused
    exact .inr rfl
  · split at refused
    · cases refused
      exact .inr rfl
    · split at refused
      · cases refused
        exact .inr rfl
      · split at refused
        · cases refused
          exact .inl rfl
        · cases refused

/-- A file route answers before its first `await` with a refusal of `authenticateToken`, or as
its handler does. -/
theorem authorized_status {P : Platform} {authorization : Option String}
    {handler : Outcome FileWait} {statuses : List Nat} (tokens : 401 ∈ statuses ∧ 403 ∈ statuses)
    (handled : ∀ response, handler = .respond response → response.status ∈ statuses)
    {response : Response} (answered : authorized P authorization handler = .respond response) :
    response.status ∈ statuses := by
  unfold authorized at answered
  split at answered
  · rename_i refused
    cases answered
    rcases authenticateToken_status refused with invalid | missing
    · exact invalid ▸ tokens.1
    · exact missing ▸ tokens.2
  · exact handled response (Outcome.map_eq_respond answered)

/-- **A first segment answers with a status of its route.** -/
theorem enter_status {P : Platform} {world : World} {now : Nat} {request : Request}
    {response : Response} (answered : (enter P world now request).2 = .respond response) :
    response.status ∈ request.route.statuses := by
  cases request with
  | createFile authorization body file =>
    cases authed : authenticateToken P authorization with
    | error refusal =>
      simp only [enter, authed, Outcome.respond.injEq] at answered
      subst answered
      rcases authenticateToken_status authed with invalid | missing
      · simp [Request.route, Route.statuses, invalid]
      · simp [Request.route, Route.statuses, missing]
    | ok user =>
      cases multered : multerSingle "file" (uploadDirectory P.appDir) (fun _ => none) none now
          world.disk file with
      | mk disk outcome =>
        cases outcome with
        | error error =>
          -- Express's default error handler answers 500
          simp only [enter, authed, multered, Outcome.respond.injEq] at answered
          subst answered
          simp [Request.route, Route.statuses]
        | next stored =>
          simp only [enter, authed, multered] at answered
          have handled := Outcome.map_eq_respond answered
          revert handled
          fun_cases createFileEnter P body stored <;> intro handled <;> cases handled <;>
            simp [Request.route, Route.statuses, errorResponse]
  | readFile authorization =>
    exact authorized_status (by simp [Request.route, Route.statuses])
      (fun _ handled => by cases handled) answered
  | readFileById authorization id =>
    refine authorized_status (by simp [Request.route, Route.statuses]) (fun _ handled => ?_)
      answered
    unfold readFileByIdEnter at handled
    split at handled <;> cases handled
    simp [Request.route, Route.statuses, errorResponse]
  | updateFile authorization id body =>
    refine authorized_status (by simp [Request.route, Route.statuses]) (fun _ handled => ?_)
      answered
    revert handled
    fun_cases updateFileEnter P id body <;> intro handled <;> cases handled
    simp [Request.route, Route.statuses, errorResponse]
  | deleteFile authorization id =>
    refine authorized_status (by simp [Request.route, Route.statuses]) (fun _ handled => ?_)
      answered
    unfold deleteFileEnter at handled
    split at handled <;> cases handled
    simp [Request.route, Route.statuses, errorResponse]
  | register username email password =>
    have handled := Outcome.map_eq_respond answered
    unfold registerEnter at handled
    split at handled <;> cases handled
    simp [Request.route, Route.statuses]
  | login email password => cases answered
  | upload file =>
    cases multered : multerSingle "file" uploadsDestination fileFilter (some uploadSizeLimit) now
        world.disk file with
    | mk disk outcome =>
      cases outcome with
      | error error =>
        -- `uploadErrorHandler` answers 400 for a `MulterError` and 500 for any other
        simp only [enter, multered, Outcome.respond.injEq] at answered
        subst answered
        unfold uploadErrorHandler
        split <;> simp [Request.route, Route.statuses]
      | next stored =>
        simp only [enter, multered] at answered
        have handled := Outcome.map_eq_respond answered
        revert handled
        fun_cases initiateFileUploadEnter disk stored <;> intro handled <;> cases handled <;>
          simp [Request.route, Route.statuses, queueError]

/-! ### Later segments -/

theorem fileResume_status {world : World} {env : Env} {wait : FileWait} {response : Response}
    (answered : (fileResume P world env wait).2 = .respond response) :
    response.status ∈ (Wait.file wait).route.statuses := by
  revert answered
  fun_cases fileResume P world env wait <;> intro answered <;> cases answered <;>
    simp [Wait.route, Route.statuses, errorResponse]

theorem userResume_status {P : Platform} {world : World} {env : Env} {wait : UserWait}
    {response : Response} (answered : (userResume P world env wait).2 = .respond response) :
    response.status ∈ (Wait.user wait).route.statuses := by
  revert answered
  fun_cases userResume P world env wait <;> intro answered <;> cases answered <;>
    simp [Wait.route, Route.statuses, registrationError]

theorem uploadResume_status {world : World} {env : Env} {wait : UploadWait} {response : Response}
    (answered : (uploadResume world env wait).2 = .respond response) :
    response.status ∈ (Wait.upload wait).route.statuses := by
  revert answered
  fun_cases uploadResume world env wait <;> intro answered <;> cases answered <;>
    simp [Wait.route, Route.statuses, queueError]

/-- **A later segment answers with a status of the route of the `await` it resumes.** -/
theorem resumeWait_status {P : Platform} {world : World} {env : Env} {wait : Wait}
    {response : Response} (answered : (resumeWait P world env wait).2 = .respond response) :
    response.status ∈ wait.route.statuses := by
  cases wait with
  | file wait =>
    rw [resumeWait_file] at answered
    exact fileResume_status (Outcome.map_eq_respond answered)
  | user wait =>
    rw [resumeWait_user] at answered
    exact userResume_status (Outcome.map_eq_respond answered)
  | upload wait =>
    rw [resumeWait_upload] at answered
    exact uploadResume_status (Outcome.map_eq_respond answered)

/-! ### Along every run -/

/-- Every request in flight waits at an `await` of its own route, and every request answered was
sent a status of its route. -/
structure StatusesKept (server : Server) : Prop where
  waits : ∀ entry ∈ server.threads, ∀ wait, entry.2.progress = .await wait →
    wait.route = entry.2.request.route
  answers : ∀ entry ∈ server.threads, ∀ response, entry.2.progress = .respond response →
    response.status ∈ entry.2.request.route.statuses

section Kept

variable {P : Platform} {server server' : Server}

theorem statusesKept_initial (disk : Disk) : StatusesKept (initial disk) :=
  ⟨fun _ member => absurd member List.not_mem_nil, fun _ member => absurd member List.not_mem_nil⟩

theorem statusesKept_step {label : Label} (kept : StatusesKept server)
    (stepped : step P server label = some server') : StatusesKept server' := by
  cases label with
  | arrive request now =>
    rw [step_arrive] at stepped
    cases stepped
    -- the new request stands where its first segment left it
    constructor
    · intro entry member wait progress
      rcases Table.mem_insert.mp member with old | rfl
      · exact forall_afterEnter kept.waits (fun _ _ _ dropped => by cases dropped) entry old wait
          progress
      · exact enter_route progress
    · intro entry member response progress
      rcases Table.mem_insert.mp member with old | rfl
      · exact forall_afterEnter kept.answers (fun _ _ _ dropped => by cases dropped) entry old
          response progress
      · exact enter_status progress
  | resume id env =>
    obtain ⟨request, wait, found, rfl⟩ := step_resume_eq_some stepped
    -- the resumed request waited at an `await` of its own route
    have routed : wait.route = request.route := kept.waits _ (Table.get_eq_some found).1 wait rfl
    constructor
    · intro entry member wait' progress
      rcases Table.mem_set member with ⟨old, _⟩ | rfl
      · exact kept.waits entry old wait' progress
      · exact (resumeWait_route progress).trans routed
    · intro entry member response progress
      rcases Table.mem_set member with ⟨old, _⟩ | rfl
      · exact kept.answers entry old response progress
      · exact routed ▸ resumeWait_status progress
  | attempt jobId now =>
    obtain ⟨world, _, rfl⟩ := step_attempt_eq_some stepped
    exact ⟨kept.waits, kept.answers⟩

theorem statusesKept_reachable {disk : Disk}
    (reachable : Transition.Reachable (step P) (initial disk) server) : StatusesKept server :=
  Transition.reachable_invariant StatusesKept (statusesKept_initial disk)
    (fun _ _ _ kept stepped => statusesKept_step kept stepped) reachable

/-- **Every response has a status of its route.** In every reachable state, for every
interleaving of requests of every route with resumes and the queue's attempts, however the
awaited calls settle, the response a request has been sent has one of the statuses its route
sends. -/
theorem response_statuses {disk : Disk}
    (reachable : Transition.Reachable (step P) (initial disk) server) {id : Nat}
    {response : Response} (answered : server.response id = some response) :
    ∃ request, Table.get server.threads id = some (id, ⟨request, .respond response⟩) ∧
      response.status ∈ request.route.statuses := by
  obtain ⟨request, found⟩ := Server.get_of_response answered
  exact ⟨request, found,
    (statusesKept_reachable reachable).answers _ (Table.get_eq_some found).1 response rfl⟩

end Kept

theorem response_statuses_standIn :
    ∃ server, Transition.Reachable (step standIn) (initial fun _ => none) server ∧
      server.response 0 = some tokenRequired ∧
      ∃ request, Table.get server.threads 0 = some (0, ⟨request, .respond tokenRequired⟩) ∧
        tokenRequired.status ∈ request.route.statuses := by
  have refused : (Transition.run (step standIn) (initial fun _ => none)
      [.arrive (.readFile none) 1]).map (fun server => server.response 0) =
      some (some tokenRequired) := by
    decide
  obtain ⟨server, ran, answered⟩ := Option.map_eq_some_iff.mp refused
  exact ⟨server, ⟨_, ran⟩, answered, response_statuses ⟨_, ran⟩ answered⟩

end FileManager
