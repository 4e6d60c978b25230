import FileManager.Proof.Alone

/-!
**Users: usernames are distinct in every run, emails only while registrations do not overlap.**

`register` looks for a user with the same email or username, then draws a salt, hashes the
password and saves, with an `await` between each. MongoDB's unique index on `username` is a second
check at the save itself; nothing of the kind guards `email`.

* `usernames_distinct` — in every reachable state, whatever runs in between, the usernames are
  pairwise distinct: the index refuses the save of a taken username;
* `emails_distinct_sequential` — while the server handles one request at a time, the emails are
  pairwise distinct too: nothing can save a user between the check and the save;
* `emails_duplicated` — two registrations with one email and two usernames that interleave at
  their `await`s both pass the check and both save, on every platform.
-/

namespace FileManager

/-! ### What a step does to the users -/

/-- **What a step does to the users.** It leaves them as they are; or it resumes a registration
at its save, which the unique index lets through: the record is added, and the registration
answers 201 with it. -/
theorem step_users_cases {P : Platform} {server server' : Server} {label : Label}
    (stepped : step P server label = some server') :
    server'.world.users = server.world.users ∨
    ∃ id request userId user,
      Table.get server.threads id =
        some (id, ⟨request, .await (.user (.registerSaving userId user))⟩) ∧
      Table.find server.world.users (fun other => decide (other.username = user.username)) =
        none ∧
      server'.world.users = Table.insert server.world.users userId user ∧
      (id, ⟨request, .respond ⟨201, .user .userRegistered (userId, user)⟩⟩) ∈ server'.threads := by
  cases label with
  | arrive request now =>
    rw [step_arrive] at stepped
    cases stepped
    exact .inl (enter_users P server.world now request)
  | resume id env =>
    obtain ⟨request, wait, found, rfl⟩ := step_resume_eq_some stepped
    cases wait with
    | file wait => exact .inl (fileResume_users P server.world env wait)
    | upload wait => exact .inl (uploadResume_users server.world env wait)
    | user wait =>
      show (resumeWait P server.world env (.user wait)).1.users = server.world.users ∨ _
      rw [resumeWait_user]
      rcases userResume_cases P server.world env wait with
        ⟨_, same⟩ | ⟨_, _, _, _, _, _, same⟩ | ⟨_, _, _, _, same⟩ | ⟨_, _, _, _, _, same⟩ |
        ⟨userId, user, rfl, _, absent, same⟩ | ⟨_, _, _, _, _, _, same⟩
      · exact .inl (by rw [same])
      · exact .inl (by rw [same])
      · exact .inl (by rw [same])
      · exact .inl (by rw [same])
      · -- the save: the request's entry now holds the 201 answer
        have present : id ∈ Table.keys server.threads :=
          List.mem_map_of_mem (Table.get_eq_some found).1
        have answered : (resumeWait P server.world env (.user (.registerSaving userId user))).2 =
            .respond ⟨201, .user .userRegistered (userId, user)⟩ := by
          rw [resumeWait_user, same]
          rfl
        refine .inr ⟨id, request, userId, user, found, absent, by rw [same], ?_⟩
        rw [← answered]
        exact Table.mem_set_self _ present
      · exact .inl (by rw [same])
  | attempt jobId now =>
    obtain ⟨world, attempted, rfl⟩ := step_attempt_eq_some stepped
    obtain ⟨disk, jobs, rfl⟩ := attemptJob_world _ _ attempted
    exact .inl rfl

/-! ### Usernames -/

/-- A step keeps the usernames distinct. -/
theorem usernames_distinct_step {P : Platform} {server server' : Server} {label : Label}
    (distinct : (Table.column UserDoc.username server.world.users).Nodup)
    (stepped : step P server label = some server') :
    (Table.column UserDoc.username server'.world.users).Nodup := by
  rcases step_users_cases stepped with same | ⟨_, _, _, _, _, absent, inserted, _⟩
  · rw [same]
    exact distinct
  · -- the save goes through only when the unique index finds no user with that username
    rw [inserted]
    exact Table.nodup_column_insert distinct (Table.find_eq_none_iff_not_mem_column.mp absent)

/-- **In every reachable state the usernames are pairwise distinct**, for every interleaving of
every request and every outcome of the database calls. -/
theorem usernames_distinct {P : Platform} {disk : Disk} {server : Server}
    (reachable : Transition.Reachable (step P) (initial disk) server) :
    (Table.column UserDoc.username server.world.users).Nodup :=
  Transition.reachable_invariant (fun server => (Table.column UserDoc.username server.world.users).Nodup)
    (by simp [initial, Table.column]) (fun _ _ _ distinct stepped => usernames_distinct_step distinct stepped)
    reachable

/-- Two registrations of the username `ann` with two emails, each past its check before either
saves: MongoDB's index refuses the second save. -/
def usernameRace : List Label :=
  [.arrive (.register (some "ann") (some "a@y.z") (some "p1")) 1,
    .arrive (.register (some "ann") (some "b@y.z") (some "p2")) 1,
    .resume 0 ⟨.resolve, 2, "s"⟩, .resume 1 ⟨.resolve, 2, "s"⟩,
    .resume 0 ⟨.resolve, 3, "s"⟩, .resume 1 ⟨.resolve, 3, "s"⟩,
    .resume 0 ⟨.resolve, 4, "s"⟩, .resume 1 ⟨.resolve, 4, "s"⟩,
    .resume 0 ⟨.resolve, 5, "s"⟩, .resume 1 ⟨.resolve, 5, "s"⟩]

theorem usernames_distinct_standIn :
    ∃ server, Transition.run (step standIn) (initial fun _ => none) usernameRace = some server ∧
      (Table.column UserDoc.username server.world.users).Nodup := by
  obtain ⟨server, ran⟩ := Option.isSome_iff_exists.mp (by decide :
    (Transition.run (step standIn) (initial fun _ => none) usernameRace).isSome)
  exact ⟨server, ran, usernames_distinct ⟨usernameRace, ran⟩⟩

/-! ### Emails, one request at a time -/

/-- Where a request served alone stands, as far as emails go: a registration past its check holds
an email no user has. -/
def EmailFree (users : List (ObjectId × UserDoc)) : Outcome Wait → Prop
  | .await (.user (.registerSalting _ email _)) => email ∉ Table.column UserDoc.email users
  | .await (.user (.registerHashing _ email _ _)) => email ∉ Table.column UserDoc.email users
  | .await (.user (.registerSaving _ user)) => user.email ∉ Table.column UserDoc.email users
  | _ => True

/-- The emails are distinct, and the request served alone keeps them so. -/
def EmailsKept (world : World) (outcome : Outcome Wait) : Prop :=
  (Table.column UserDoc.email world.users).Nodup ∧ EmailFree world.users outcome

theorem emailFree_file (users : List (ObjectId × UserDoc)) (outcome : Outcome FileWait) :
    EmailFree users (outcome.map .file) := by
  cases outcome <;> trivial

theorem emailFree_upload (users : List (ObjectId × UserDoc)) (outcome : Outcome UploadWait) :
    EmailFree users (outcome.map .upload) := by
  cases outcome <;> trivial

/-- `findOne({ $or: [{ email }, { username }] })` finding nothing means no user has the email. -/
theorem email_not_mem_of_find {users : List (ObjectId × UserDoc)} {email username : String}
    (absent : Table.find users (fun user => decide (user.email = email ∨ user.username = username)) =
      none) :
    email ∉ Table.column UserDoc.email users := by
  rw [Table.mem_column]
  rintro ⟨entry, member, same⟩
  have differs := Table.find_eq_none.mp absent entry member
  simp [same] at differs

/-- One segment of a request served alone keeps the emails distinct. -/
theorem emailsKept_resume {P : Platform} {world : World} {wait : Wait} (env : Env)
    (kept : EmailsKept world (.await wait)) :
    EmailsKept (resumeWait P world env wait).1 (resumeWait P world env wait).2 := by
  obtain ⟨distinct, free⟩ := kept
  cases wait with
  | file wait =>
    rw [resumeWait_file]
    exact ⟨by rw [fileResume_users]; exact distinct, emailFree_file _ _⟩
  | upload wait =>
    rw [resumeWait_upload]
    exact ⟨by rw [uploadResume_users]; exact distinct, emailFree_upload _ _⟩
  | user wait =>
    rw [resumeWait_user]
    rcases userResume_cases P world env wait with
      ⟨_, same⟩ | ⟨_, _, _, rfl, _, absent, same⟩ | ⟨_, _, _, rfl, same⟩ |
      ⟨_, _, _, _, rfl, same⟩ | ⟨id, user, rfl, _, _, same⟩ | ⟨_, _, _, _, _, _, same⟩
    · rw [same]; exact ⟨distinct, trivial⟩
    · -- the check found no user with the email, and the collection is as the check saw it
      rw [same]; exact ⟨distinct, email_not_mem_of_find absent⟩
    · rw [same]; exact ⟨distinct, free⟩
    · rw [same]; exact ⟨distinct, free⟩
    · rw [same]; exact ⟨Table.nodup_column_insert distinct free, trivial⟩
    · rw [same]; exact ⟨distinct, trivial⟩

/-- A request stands at no point past `register`'s check after its first segment. -/
theorem emailsKept_enter {P : Platform} {world : World} {now : Nat} (request : Request)
    (distinct : (Table.column UserDoc.email world.users).Nodup) :
    EmailsKept (enter P world now request).1 (enter P world now request).2 := by
  refine ⟨by rw [enter_users]; exact distinct, ?_⟩
  cases entered : (enter P world now request).2 with
  | respond response => trivial
  | unhandled => trivial
  | await wait =>
    rcases enter_eq_await entered with
      ⟨_, _, _, _, _, rfl, _⟩ | ⟨_, _, rfl⟩ | ⟨_, _, _, rfl⟩ | ⟨_, _, _, _, _, _, rfl⟩ |
      ⟨_, _, _, rfl⟩ | ⟨_, _, _, _, rfl⟩ | ⟨_, _, _, rfl⟩ | ⟨_, _, rfl, _⟩ <;> trivial

/-- A request served alone keeps the emails distinct. -/
theorem serve_keeps_emails_distinct {P : Platform} {world : World} {now : Nat}
    {request : Request} {envs : List Env} {final : World × Outcome Wait}
    (distinct : (Table.column UserDoc.email world.users).Nodup)
    (served : serve P world now request envs = some final) :
    (Table.column UserDoc.email final.1.users).Nodup :=
  (resumeAll_invariant EmailsKept (fun _ _ env kept => emailsKept_resume env kept) envs _ _ final
    (emailsKept_enter request distinct) served).1

/-- **While the server handles one request at a time, emails stay distinct**: every
registration checks the email and saves with no other request in between. -/
theorem emails_distinct_sequential {P : Platform} {disk : Disk}
    {blocks : List (Request × Nat × List Env)} {final : Server}
    (ran : Transition.run (step P) (initial disk) (sequentialLabels 0 blocks) = some final) :
    (Table.column UserDoc.email final.world.users).Nodup := by
  refine sequential_invariant (fun server => (Table.column UserDoc.email server.world.users).Nodup)
    (fun _ => True) ?_ blocks (initial disk) final threadsKeyed_initial
    (by simp [initial, Table.column]) (fun _ _ => trivial) ran
  intro server server' request now envs keyed distinct _ alone
  rw [run_alone server keyed.fresh, Option.map_eq_some_iff] at alone
  obtain ⟨ended, served, rfl⟩ := alone
  exact serve_keeps_emails_distinct distinct served

/-- Two registrations with one email, one after the other: the second is answered 400. -/
def registerTwice : List (Request × Nat × List Env) :=
  [(.register (some "ann") (some "x@y.z") (some "p1"), 1,
      [⟨.resolve, 1, "s"⟩, ⟨.resolve, 1, "s"⟩, ⟨.resolve, 1, "s"⟩, ⟨.resolve, 1, "s"⟩]),
    (.register (some "bob") (some "x@y.z") (some "p2"), 2, [⟨.resolve, 2, "s"⟩])]

theorem emails_distinct_sequential_standIn :
    ∃ final, Transition.run (step standIn) (initial fun _ => none) (sequentialLabels 0 registerTwice) =
      some final ∧ (Table.column UserDoc.email final.world.users).Nodup := by
  obtain ⟨final, ran⟩ := Option.isSome_iff_exists.mp (by decide :
    (Transition.run (step standIn) (initial fun _ => none) (sequentialLabels 0 registerTwice)).isSome)
  exact ⟨final, ran, emails_distinct_sequential ran⟩

/-! ### Overlapping registrations -/

/-- Two registrations with one email and two usernames, each past its check before either
saves. -/
def registerRace : List Label :=
  [.arrive (.register (some "ann") (some "x@y.z") (some "p1")) 1,
    .arrive (.register (some "bob") (some "x@y.z") (some "p2")) 1,
    .resume 0 ⟨.resolve, 2, "s"⟩, .resume 1 ⟨.resolve, 2, "s"⟩,
    .resume 0 ⟨.resolve, 3, "s"⟩, .resume 1 ⟨.resolve, 3, "s"⟩,
    .resume 0 ⟨.resolve, 4, "s"⟩, .resume 1 ⟨.resolve, 4, "s"⟩,
    .resume 0 ⟨.resolve, 5, "s"⟩, .resume 1 ⟨.resolve, 5, "s"⟩]

/-- **Emails are not kept distinct**: on every platform and every disk, the two overlapping
registrations of `registerRace` are both answered 201 and leave two users with one email. -/
theorem emails_duplicated (P : Platform) (disk : Disk) :
    (Transition.run (step P) (initial disk) registerRace).map
        (fun server => (Table.column UserDoc.email server.world.users,
          (server.response 0).map Response.status, (server.response 1).map Response.status)) =
      some (["x@y.z", "x@y.z"], some 201, some 201) := by
  rfl

end FileManager
