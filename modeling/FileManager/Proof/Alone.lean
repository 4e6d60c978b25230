import FileManager.Proof.Steps
import FileManager.Proof.StandIn

/-!
**A request served alone.**

`serve` runs one request from its arrival to the end of its handler with nothing else in between:
its first segment, then one segment for each `Env` in turn, each the way its awaited call
settles. It is the semantics of a request in a server that handles one request at a time, and
the server refines it: `run_alone` says that the server, given the arrival of a request followed
by resumes of that request only, reaches the world `serve` computes, with the request's entry
recording how it ended.

The facts that hold of one request whatever else runs are proved of the server's steps; the
facts that hold of a request served alone (what it writes when it fails, what it answers) are
proved of `serve` and lifted to the server by `run_alone`. `sequential_invariant` carries a fact
kept by each request served alone over requests served one after another (`sequentialLabels`),
and `response_final` says that no step changes a response once it has been sent.
-/

namespace FileManager

/-- The segments of a request after its first, each awaited call settling as the next `Env` says:
the world and where the request stands at the end, or `none` when an `Env` is left over after the
request has ended. -/
def resumeAll (P : Platform) : World → Outcome Wait → List Env → Option (World × Outcome Wait)
  | world, outcome, [] => some (world, outcome)
  | world, .await wait, env :: envs =>
    resumeAll P (resumeWait P world env wait).1 (resumeWait P world env wait).2 envs
  | _, .respond _, _ :: _ => none
  | _, .unhandled, _ :: _ => none

/-- A request served alone from `world`, arriving when the clock reads `now`. -/
def serve (P : Platform) (world : World) (now : Nat) (request : Request) (envs : List Env) :
    Option (World × Outcome Wait) :=
  resumeAll P (enter P world now request).1 (enter P world now request).2 envs

/-- The response of a request that has ended with one. -/
def Outcome.response {α : Type} : Outcome α → Option Response
  | .respond response => some response
  | _ => none

section Alone

variable {P : Platform}

@[simp] theorem resumeAll_nil (world : World) (outcome : Outcome Wait) :
    resumeAll P world outcome [] = some (world, outcome) := rfl

@[simp] theorem resumeAll_await (world : World) (wait : Wait) (env : Env) (envs : List Env) :
    resumeAll P world (.await wait) (env :: envs) =
      resumeAll P (resumeWait P world env wait).1 (resumeWait P world env wait).2 envs := rfl

/-- **Invariant rule for a request served alone.** A property of the world and of where the
request stands that every segment keeps holds when `resumeAll` ends. -/
theorem resumeAll_invariant (inv : World → Outcome Wait → Prop)
    (keep : ∀ world wait env, inv world (.await wait) →
      inv (resumeWait P world env wait).1 (resumeWait P world env wait).2) :
    ∀ (envs : List Env) (world : World) (outcome : Outcome Wait) (final : World × Outcome Wait),
      inv world outcome → resumeAll P world outcome envs = some final → inv final.1 final.2 := by
  intro envs
  induction envs with
  | nil =>
    intro world outcome final holds ended
    cases ended
    exact holds
  | cons env envs ih =>
    intro world outcome final holds ended
    cases outcome with
    | await wait => exact ih _ _ final (keep world wait env holds) ended
    | respond response => cases ended
    | unhandled => cases ended

/-- The resumes of one request, whose number no other entry has, run as `resumeAll`. -/
theorem run_resumes (base : List (Nat × Thread)) (id next : Nat) (request : Request)
    (fresh : id ∉ Table.keys base) (envs : List Env) :
    ∀ (world : World) (outcome : Outcome Wait),
      Transition.run (step P) ⟨world, Table.insert base id ⟨request, outcome⟩, next⟩
          (envs.map (.resume id)) =
        (resumeAll P world outcome envs).map fun ended =>
          ⟨ended.1, Table.insert base id ⟨request, ended.2⟩, next⟩ := by
  induction envs with
  | nil => intro world outcome; rfl
  | cons env envs ih =>
    intro world outcome
    have found : Table.get (Table.insert base id ⟨request, outcome⟩) id =
        some (id, ⟨request, outcome⟩) := Table.get_insert_of_not_mem _ fresh
    cases outcome with
    | await wait =>
      have stepped : step P ⟨world, Table.insert base id ⟨request, .await wait⟩, next⟩
          (.resume id env) =
          some ⟨(resumeWait P world env wait).1,
            Table.insert base id ⟨request, (resumeWait P world env wait).2⟩, next⟩ := by
        simp only [step, found]
        rw [Table.set_insert_of_not_mem _ _ fresh]
      rw [List.map_cons, Transition.run_cons, stepped, Option.bind_some, ih, resumeAll_await]
    | respond response =>
      simp [step, found, resumeAll]
    | unhandled =>
      simp [step, found, resumeAll]

/-- **The server refines `serve`.** The arrival of a request followed by resumes of that request
only reaches the world of `serve`, with the request's entry recording where it stands, and the
other requests as its first segment left them: dropped, if it made the process exit. -/
theorem run_alone (server : Server) (fresh : server.nextRequestId ∉ Table.keys server.threads)
    (now : Nat) (request : Request) (envs : List Env) :
    Transition.run (step P) server (.arrive request now :: envs.map (.resume server.nextRequestId)) =
      (serve P server.world now request envs).map fun ended =>
        ⟨ended.1, Table.insert (afterEnter (enter P server.world now request).2 server.threads)
          server.nextRequestId ⟨request, ended.2⟩, server.nextRequestId + 1⟩ := by
  rw [Transition.run_cons, step_arrive, Option.bind_some]
  exact run_resumes _ server.nextRequestId _ request (by rwa [keys_afterEnter]) envs _ _

/-- The response recorded for a request that no other entry shares the number of. -/
theorem response_insert (world : World) (base : List (Nat × Thread)) (id next : Nat)
    (request : Request) (outcome : Outcome Wait) (fresh : id ∉ Table.keys base) :
    Server.response ⟨world, Table.insert base id ⟨request, outcome⟩, next⟩ id =
      outcome.response := by
  unfold Server.response
  rw [Table.get_insert_of_not_mem _ fresh]
  cases outcome <;> rfl

/-! ### Responses stay -/

theorem Server.response_congr {server server' : Server} {id : Nat}
    (same : Table.get server'.threads id = Table.get server.threads id) :
    server'.response id = server.response id := by
  unfold Server.response
  rw [same]

theorem Server.response_of_get {server : Server} {id : Nat} {request : Request} {response : Response}
    (found : Table.get server.threads id = some (id, ⟨request, .respond response⟩)) :
    server.response id = some response := by
  unfold Server.response
  rw [found]

/-- A response sent is the progress of the request under its number. -/
theorem Server.get_of_response {server : Server} {id : Nat} {response : Response}
    (answered : server.response id = some response) :
    ∃ request, Table.get server.threads id = some (id, ⟨request, .respond response⟩) := by
  unfold Server.response at answered
  split at answered
  · rename_i key request answer found
    cases answered
    obtain rfl : key = id := (Table.get_eq_some found).2
    exact ⟨request, found⟩
  · cases answered

theorem Server.mem_keys_of_response {server : Server} {id : Nat} {response : Response}
    (answered : server.response id = some response) : id ∈ Table.keys server.threads := by
  obtain ⟨_, found⟩ := Server.get_of_response answered
  exact List.mem_map_of_mem (Table.get_eq_some found).1

/-- An answered request keeps its entry through every step: a restart ends only the requests
that wait, an arrival adds an entry under a number no entry has, and a resume moves a request that
waits. -/
theorem answered_mem_step {server server' : Server} {label : Label} (keyed : ThreadsKeyed server)
    (stepped : step P server label = some server') {entry : Nat × Thread}
    (member : entry ∈ server.threads) {response : Response}
    (answered : entry.2.progress = .respond response) : entry ∈ server'.threads := by
  have settled : ∀ wait, entry.2.progress ≠ .await wait := fun wait waiting => by
    rw [answered] at waiting
    cases waiting
  cases label with
  | arrive request now =>
    rw [step_arrive] at stepped
    cases stepped
    exact Table.mem_insert.mpr (.inl (mem_afterEnter_of_settled member settled))
  | resume id env =>
    obtain ⟨request, wait, found, rfl⟩ := step_resume_eq_some stepped
    -- the request resumed waits, so the answered entry has another number
    refine Table.mem_set_of_ne _ member fun same => ?_
    obtain ⟨key, thread⟩ := entry
    simp only at same settled
    subst same
    have only := Table.eq_of_get_of_mem keyed.distinct found member
    exact settled wait (by rw [only])
  | attempt jobId now =>
    obtain ⟨world, _, rfl⟩ := step_attempt_eq_some stepped
    exact member

/-- **A response, once sent, stays.** A request that has been answered is not resumed again, and
a request that arrives takes a number no entry has, so no step changes a response. -/
theorem response_step {server server' : Server} {label : Label} (keyed : ThreadsKeyed server)
    (stepped : step P server label = some server') {id : Nat} {response : Response}
    (answered : server.response id = some response) : server'.response id = some response := by
  obtain ⟨request, found⟩ := Server.get_of_response answered
  have kept := answered_mem_step keyed stepped (Table.get_eq_some found).1 rfl
  exact Server.response_of_get (Table.get_of_mem (threadsKeyed_step keyed stepped).distinct kept)

theorem response_run {server final : Server} (keyed : ThreadsKeyed server) (labels : List Label)
    (ran : Transition.run (step P) server labels = some final) {id : Nat} {response : Response}
    (answered : server.response id = some response) : final.response id = some response :=
  (Transition.run_invariant (fun _ => True)
    (fun server => ThreadsKeyed server ∧ server.response id = some response)
    (fun _ _ _ _ holds stepped => ⟨threadsKeyed_step holds.1 stepped, response_step holds.1 stepped holds.2⟩)
    labels server final (fun _ _ => trivial) ⟨keyed, answered⟩ ran).2

/-- **A request is answered at most once.** In every reachable state, a response that has been
sent stays what it is through whatever the server does next. -/
theorem response_final {disk : Disk} {server final : Server}
    (reachable : Transition.Reachable (step P) (initial disk) server) {id : Nat} {response : Response}
    (answered : server.response id = some response) (labels : List Label)
    (ran : Transition.run (step P) server labels = some final) : final.response id = some response :=
  response_run (threadsKeyed_reachable reachable) labels ran answered


/-! ### Requests served one after another -/

/-- The labels of requests served one after another, numbered from `first`: each arrives, and
only it resumes until its `Env`s are used up. -/
def sequentialLabels (first : Nat) : List (Request × Nat × List Env) → List Label
  | [] => []
  | (request, now, envs) :: rest =>
    (.arrive request now :: envs.map (.resume first)) ++ sequentialLabels (first + 1) rest

theorem threadsKeyed_run {server final : Server} (keyed : ThreadsKeyed server) (labels : List Label)
    (ran : Transition.run (step P) server labels = some final) : ThreadsKeyed final :=
  Transition.run_invariant (fun _ => True) ThreadsKeyed
    (fun _ _ _ _ holds stepped => threadsKeyed_step holds stepped) labels server final
    (fun _ _ => trivial) keyed ran

/-- A request served alone moves `nextRequestId` on by one. -/
theorem nextRequestId_alone {server server' : Server} (keyed : ThreadsKeyed server) {now : Nat}
    {request : Request} {envs : List Env}
    (ran : Transition.run (step P) server
      (.arrive request now :: envs.map (.resume server.nextRequestId)) = some server') :
    server'.nextRequestId = server.nextRequestId + 1 := by
  rw [run_alone server keyed.fresh, Option.map_eq_some_iff] at ran
  obtain ⟨ended, _, rfl⟩ := ran
  rfl

/-- **Invariant rule for a server that serves one request at a time.** A property of the server
that every allowed request served alone keeps holds after allowed requests served one after
another. -/
theorem sequential_invariant (inv : Server → Prop) (allowed : Request → Prop)
    (keep : ∀ (server server' : Server) (request : Request) (now : Nat) (envs : List Env),
      ThreadsKeyed server → inv server → allowed request →
      Transition.run (step P) server
        (.arrive request now :: envs.map (.resume server.nextRequestId)) = some server' →
      inv server') :
    ∀ (blocks : List (Request × Nat × List Env)) (server final : Server), ThreadsKeyed server →
      inv server → (∀ block ∈ blocks, allowed block.1) →
      Transition.run (step P) server (sequentialLabels server.nextRequestId blocks) = some final →
      inv final := by
  intro blocks
  induction blocks with
  | nil =>
    intro server final _ holds _ ran
    cases ran
    exact holds
  | cons block rest ih =>
    obtain ⟨request, now, envs⟩ := block
    intro server final keyed holds allowedAll ran
    rw [sequentialLabels, Transition.run_append, Option.bind_eq_some_iff] at ran
    obtain ⟨mid, first, later⟩ := ran
    have moved := nextRequestId_alone keyed first
    rw [← moved] at later
    exact ih mid final (threadsKeyed_run keyed _ first)
      (keep server mid request now envs keyed holds (allowedAll _ List.mem_cons_self) first)
      (fun block member => allowedAll block (List.mem_cons_of_mem _ member)) later

end Alone

end FileManager
