import FileManager.Proof.FileNames

/-!
**The file routes do not look at who sent a request.**

`authenticateToken` sets `req.user`, and no handler of `fileController.js` reads it: `createFile`
builds its document from the body and multer's part without a `userId`, `readFile` answers
`File.find()`, and `readFileById`, `updateFile` and `deleteFile` act on `File.findById(id)`
whoever owns it. What a request to a file route does depends on its token only through the
verdict of `authenticateToken`, whether it lets the request through and, if not, how it answers.

* `SameButUser P request request'` — the same request, sent with another token that gets the same
  verdict; `LabelSameButUser` lifts it to labels;
* `SameButUsers P server server'` — two servers with one world, in which each request in flight
  is the same but for its sender, and stands at the same point;
* `step_sameButUsers` — a step on one side is matched by the step on the other side
  (`Transition.run_simulation`);
* `user_ignored` — two runs whose labels differ only in the senders of file requests reach the
  same world and send the same responses: one user reads, updates and deletes the documents
  another user created exactly as their creator would.
-/

namespace FileManager

/-- What `authenticateToken` decides about a request: the response it refuses it with, or that it
lets it through, and not the id it sets as `req.user`. -/
def verdict (P : Platform) (authorization : Option String) : Except Response Unit :=
  (authenticateToken P authorization).map fun _ => ()

/-- The same request, sent to a file route with another token that gets the same verdict. -/
inductive SameButUser (P : Platform) : Request → Request → Prop
  | refl (request : Request) : SameButUser P request request
  | createFile {authorization authorization' : Option String} (body : Body) (file : Option UploadPart)
      (agree : verdict P authorization = verdict P authorization') :
      SameButUser P (.createFile authorization body file) (.createFile authorization' body file)
  | readFile {authorization authorization' : Option String}
      (agree : verdict P authorization = verdict P authorization') :
      SameButUser P (.readFile authorization) (.readFile authorization')
  | readFileById {authorization authorization' : Option String} (id : String)
      (agree : verdict P authorization = verdict P authorization') :
      SameButUser P (.readFileById authorization id) (.readFileById authorization' id)
  | updateFile {authorization authorization' : Option String} (id : String) (body : Body)
      (agree : verdict P authorization = verdict P authorization') :
      SameButUser P (.updateFile authorization id body) (.updateFile authorization' id body)
  | deleteFile {authorization authorization' : Option String} (id : String)
      (agree : verdict P authorization = verdict P authorization') :
      SameButUser P (.deleteFile authorization id) (.deleteFile authorization' id)

/-- The same step, with the arriving request sent by another user. -/
inductive LabelSameButUser (P : Platform) : Label → Label → Prop
  | arrive {request request' : Request} (now : Nat) (related : SameButUser P request request') :
      LabelSameButUser P (.arrive request now) (.arrive request' now)
  | resume (id : Nat) (env : Env) : LabelSameButUser P (.resume id env) (.resume id env)
  | attempt (jobId now : Nat) : LabelSameButUser P (.attempt jobId now) (.attempt jobId now)

/-- Two requests in flight for the same request but for its sender, at the same point. -/
def ThreadSameButUser (P : Platform) (thread thread' : Thread) : Prop :=
  SameButUser P thread.request thread'.request ∧ thread.progress = thread'.progress

/-- Two servers that differ only in who sent each file request. -/
structure SameButUsers (P : Platform) (server server' : Server) : Prop where
  world : server.world = server'.world
  nextRequestId : server.nextRequestId = server'.nextRequestId
  threads : List.Forall₂ (Table.Agree (ThreadSameButUser P)) server.threads server'.threads

section Verdict

variable {P : Platform} {authorization authorization' : Option String}

/-- Tokens with the same verdict are refused with the same response, or both let through. -/
theorem verdict_agree (agree : verdict P authorization = verdict P authorization') :
    (∃ response, authenticateToken P authorization = .error response ∧
      authenticateToken P authorization' = .error response) ∨
    (∃ id id', authenticateToken P authorization = .ok id ∧
      authenticateToken P authorization' = .ok id') := by
  unfold verdict at agree
  cases accepted : authenticateToken P authorization with
  | error response =>
    cases accepted' : authenticateToken P authorization' with
    | error response' =>
      rw [accepted, accepted'] at agree
      have same : response = response' := by simpa [Except.map] using agree
      exact .inl ⟨response, rfl, by rw [same]⟩
    | ok id' =>
      rw [accepted, accepted'] at agree
      simp [Except.map] at agree
  | ok id =>
    cases accepted' : authenticateToken P authorization' with
    | error response' =>
      rw [accepted, accepted'] at agree
      simp [Except.map] at agree
    | ok id' => exact .inr ⟨id, id', rfl, rfl⟩

theorem authorized_of_verdict (agree : verdict P authorization = verdict P authorization')
    (handler : Outcome FileWait) :
    authorized P authorization handler = authorized P authorization' handler := by
  rcases verdict_agree agree with ⟨response, refused, refused'⟩ | ⟨id, id', accepted, accepted'⟩
  · simp only [authorized, refused, refused']
  · simp only [authorized, accepted, accepted']

/-- **The first segment does not depend on the sender.** -/
theorem enter_sameButUser {request request' : Request} (related : SameButUser P request request')
    (world : World) (now : Nat) : enter P world now request = enter P world now request' := by
  cases related with
  | refl => rfl
  | createFile body file agree =>
    -- `createFile` matches on `authenticateToken` itself, before multer runs
    rcases verdict_agree agree with ⟨response, refused, refused'⟩ | ⟨id, id', accepted, accepted'⟩
    · simp only [enter, refused, refused']
    · simp only [enter, accepted, accepted']
  | readFile agree =>
    show (world, authorized P _ readFileEnter) = (world, authorized P _ readFileEnter)
    rw [authorized_of_verdict agree]
  | readFileById id agree =>
    show (world, authorized P _ (readFileByIdEnter id)) = (world, authorized P _ (readFileByIdEnter id))
    rw [authorized_of_verdict agree]
  | updateFile id body agree =>
    show (world, authorized P _ (updateFileEnter P id body)) =
      (world, authorized P _ (updateFileEnter P id body))
    rw [authorized_of_verdict agree]
  | deleteFile id agree =>
    show (world, authorized P _ (deleteFileEnter id)) = (world, authorized P _ (deleteFileEnter id))
    rw [authorized_of_verdict agree]

end Verdict

section Simulation

variable {P : Platform} {server server' : Server}

/-- A restart drops the same requests on both sides: they stand at the same points. -/
theorem afterEnter_sameButUsers (progress : Outcome Wait) {threads threads' : List (Nat × Thread)}
    (related : List.Forall₂ (Table.Agree (ThreadSameButUser P)) threads threads') :
    List.Forall₂ (Table.Agree (ThreadSameButUser P)) (afterEnter progress threads)
      (afterEnter progress threads') := by
  unfold afterEnter
  split
  · refine Table.mapRows_of_forall₂ related fun thread thread' same => ?_
    obtain ⟨requests, sameProgress⟩ := same
    unfold Thread.dropped
    rw [sameProgress]
    split
    · exact ⟨requests, rfl⟩
    · exact ⟨requests, sameProgress⟩
  · exact related

/-- **A step does not depend on who sent the file requests.** Whatever a step does on one side,
the matching step does on the other: the same first segment, the same resumed segment, the same
attempt. -/
theorem step_sameButUsers {next : Server} {label label' : Label}
    (related : SameButUsers P server server') (matching : LabelSameButUser P label label')
    (stepped : step P server label = some next) :
    ∃ next', step P server' label' = some next' ∧ SameButUsers P next next' := by
  cases matching with
  | @arrive request request' now requests =>
    rw [step_arrive] at stepped
    cases stepped
    have entered := enter_sameButUser requests server.world now
    refine ⟨_, step_arrive _ _, ⟨?_, ?_, ?_⟩⟩
    · show (enter P server.world now request).1 = (enter P server'.world now request').1
      rw [entered, related.world]
    · show server.nextRequestId + 1 = server'.nextRequestId + 1
      rw [related.nextRequestId]
    · show List.Forall₂ _
        (Table.insert (afterEnter (enter P server.world now request).2 server.threads)
          server.nextRequestId ⟨request, (enter P server.world now request).2⟩)
        (Table.insert (afterEnter (enter P server'.world now request').2 server'.threads)
          server'.nextRequestId ⟨request', (enter P server'.world now request').2⟩)
      rw [← related.nextRequestId, ← related.world, ← entered]
      exact Table.insert_of_forall₂ (afterEnter_sameButUsers _ related.threads) _ ⟨requests, rfl⟩
  | resume id env =>
    obtain ⟨request, wait, found, rfl⟩ := step_resume_eq_some stepped
    -- the other side has the request waiting at the same `await`
    obtain ⟨⟨key', request', progress'⟩, found', _, requests, sameProgress⟩ :=
      Table.get_of_forall₂ related.threads found
    cases sameProgress
    refine ⟨{ server' with
        world := (resumeWait P server'.world env wait).1
        threads := Table.set server'.threads id ⟨request', (resumeWait P server'.world env wait).2⟩ },
      by simp [step, found'], ⟨?_, related.nextRequestId, ?_⟩⟩
    · show (resumeWait P server.world env wait).1 = (resumeWait P server'.world env wait).1
      rw [related.world]
    · show List.Forall₂ _
        (Table.set server.threads id ⟨request, (resumeWait P server.world env wait).2⟩)
        (Table.set server'.threads id ⟨request', (resumeWait P server'.world env wait).2⟩)
      rw [← related.world]
      exact Table.set_of_forall₂ related.threads id ⟨requests, rfl⟩
  | attempt jobId now =>
    obtain ⟨world, attempted, rfl⟩ := step_attempt_eq_some stepped
    refine ⟨{ server' with world }, ?_, ⟨rfl, related.nextRequestId, related.threads⟩⟩
    show (attemptJob server'.world jobId now).map (fun world => { server' with world }) = _
    rw [← related.world, attempted]
    rfl

/-- Servers that differ only in the senders have sent the same responses. -/
theorem SameButUsers.response_eq (related : SameButUsers P server server') (id : Nat) :
    server.response id = server'.response id := by
  unfold Server.response
  cases found : Table.get server.threads id with
  | none =>
    have absent : Table.get server'.threads id = none := by
      rw [Table.get_eq_none, ← Table.keys_of_forall₂ related.threads]
      exact Table.get_eq_none.mp found
    rw [absent]
  | some entry =>
    obtain ⟨⟨key', request', progress'⟩, found', _, _, sameProgress⟩ :=
      Table.get_of_forall₂ related.threads found
    rw [found']
    obtain ⟨key, request, progress⟩ := entry
    cases sameProgress
    cases progress' <;> rfl

end Simulation

/-- **Who sends a file request changes nothing.** A run from the initial server, and a run whose
labels are the same but for the senders of file requests, each with the verdict of the
original's, both go through; they reach the same world, the same `File` collection and disk
included, and send every request the same response. -/
theorem user_ignored {P : Platform} {disk : Disk} {labels labels' : List Label} {final : Server}
    (matched : List.Forall₂ (LabelSameButUser P) labels labels')
    (ran : Transition.run (step P) (initial disk) labels = some final) :
    ∃ final', Transition.run (step P) (initial disk) labels' = some final' ∧
      final'.world = final.world ∧ ∀ id, final'.response id = final.response id := by
  have start : SameButUsers P (initial disk) (initial disk) := ⟨rfl, rfl, .nil⟩
  obtain ⟨final', ran', related⟩ := Transition.run_simulation (SameButUsers P) (LabelSameButUser P)
    (fun _ _ _ _ _ related matching stepped => step_sameButUsers related matching stepped)
    labels labels' _ _ final matched start ran
  exact ⟨final', ran', related.world.symm, fun id => (related.response_eq id).symm⟩

/-- User 0 creates `a.txt`, then `user` reads the document by its id, one request at a time. -/
def readBy (user : ObjectId) : List Label :=
  sequentialLabels 0
    [(createNamed "a.txt", 1, [⟨.resolve, 1, ""⟩, ⟨.resolve, 1, ""⟩]),
      (.readFileById (bearer user) "0", 2, [⟨.resolve, 2, ""⟩])]

theorem user_ignored_standIn :
    List.Forall₂ (LabelSameButUser standIn) (readBy 0) (readBy 1) ∧
    ∃ final, Transition.run (step standIn) (initial fun _ => none) (readBy 0) = some final ∧
      ∃ final', Transition.run (step standIn) (initial fun _ => none) (readBy 1) = some final' ∧
        final'.response 1 = final.response 1 := by
  have sameVerdict : verdict standIn (bearer 0) = verdict standIn (bearer 1) := by
    rw [verdict, verdict, authenticateToken_standIn, authenticateToken_standIn]
    rfl
  have matched : List.Forall₂ (LabelSameButUser standIn) (readBy 0) (readBy 1) :=
    .cons (.arrive 1 (.refl _)) (.cons (.resume 0 _) (.cons (.resume 0 _)
      (.cons (.arrive 2 (.readFileById "0" sameVerdict)) (.cons (.resume 1 _) .nil))))
  obtain ⟨final, ran⟩ := Option.isSome_iff_exists.mp (by decide :
    (Transition.run (step standIn) (initial fun _ => none) (readBy 0)).isSome)
  obtain ⟨final', ran', _, sameResponses⟩ := user_ignored matched ran
  exact ⟨matched, final, ran, final', ran', sameResponses 1⟩

/-- User 1 is sent the document user 0 created. -/
example : (Transition.run (step standIn) (initial fun _ => none) (readBy 1)).map
    (fun server : Server => (server.response 1).map Response.status) = some (some 200) := by
  decide

end FileManager
