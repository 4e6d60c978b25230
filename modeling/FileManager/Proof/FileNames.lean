import FileManager.Proof.CreateFile

/-!
**File names: distinct while requests are served one at a time, not in general.**

`createFile` answers 409 for a name a document already has (`checkIfFileExists`), and no index of
`FileSchema` guards `fileName`. The check does its work only when nothing runs between it and
the save, and only for `createFile`:

* `fileNames_distinct_sequential` — when the server handles one request at a time and no
  `updateFile` is among them, the names stay pairwise distinct;
* `fileNames_duplicated` — `updateFile` renames a document to a name another one has, and two
  creates of one name can both pass the check before either saves.
-/

namespace FileManager

/-- Where a request served alone stands, as far as file names go: a create about to save holds a
name no document has, and the request is not inside `updateFile`. -/
def NameFree (files : List (ObjectId × FileDoc)) : Outcome Wait → Prop
  | .await (.file (.createSaving _ file)) => file.fileName ∉ Table.column FileDoc.fileName files
  | .await (.file (.updateFinding ..)) => False
  | .await (.file (.updateSaving ..)) => False
  | _ => True

/-- The names are distinct, and the request served alone keeps them so. -/
def NamesKept (world : World) (outcome : Outcome Wait) : Prop :=
  (Table.column FileDoc.fileName world.files).Nodup ∧ NameFree world.files outcome

theorem nameFree_user (files : List (ObjectId × FileDoc)) (outcome : Outcome UserWait) :
    NameFree files (outcome.map .user) := by
  cases outcome <;> trivial

theorem nameFree_upload (files : List (ObjectId × FileDoc)) (outcome : Outcome UploadWait) :
    NameFree files (outcome.map .upload) := by
  cases outcome <;> trivial

/-- One segment of a request served alone keeps the names distinct. -/
theorem namesKept_resume {P : Platform} {world : World} {wait : Wait} (env : Env)
    (kept : NamesKept world (.await wait)) :
    NamesKept (resumeWait P world env wait).1 (resumeWait P world env wait).2 := by
  obtain ⟨distinct, free⟩ := kept
  cases wait with
  | file wait =>
    rw [resumeWait_file]
    rcases fileResume_cases P world env wait with
      ⟨response, same⟩ | ⟨fileName, filePath, rfl, _, absent, same⟩ | ⟨id, file, rfl, _, same⟩ |
      ⟨id, fileName, filePath, objectId, loaded, rfl, _, _⟩ |
      ⟨objectId, loaded, edited, current, rfl, _, _, _⟩ | ⟨id, objectId, file, rfl, _, _, _, same⟩ |
      ⟨objectId, file, rfl, _, same⟩
    · rw [same]
      exact ⟨distinct, trivial⟩
    · -- the check found no document with the name the create is about to save
      rw [same]
      exact ⟨distinct, checkIfFileExists_eq_none.mp absent⟩
    · rw [same]
      exact ⟨Table.nodup_column_insert distinct free, trivial⟩
    · exact free.elim
    · exact free.elim
    · rw [same]
      exact ⟨distinct, trivial⟩
    · rw [same]
      exact ⟨Table.nodup_column_erase objectId distinct, trivial⟩
  | user wait =>
    rw [resumeWait_user]
    exact ⟨by rw [userResume_files]; exact distinct, nameFree_user _ _⟩
  | upload wait =>
    rw [resumeWait_upload]
    exact ⟨by rw [uploadResume_files]; exact distinct, nameFree_upload _ _⟩

/-- The requests other than `updateFile`. -/
def NotUpdate : Request → Prop
  | .updateFile .. => False
  | _ => True

instance (request : Request) : Decidable (NotUpdate request) :=
  match request with
  | .updateFile .. => isFalse id
  | .createFile .. | .readFile .. | .readFileById .. | .deleteFile .. | .register .. | .login ..
  | .upload .. => isTrue trivial

/-- The first segment of a request other than `updateFile` keeps the names distinct. -/
theorem namesKept_enter {P : Platform} {world : World} {now : Nat} {request : Request}
    (notUpdate : NotUpdate request) (distinct : (Table.column FileDoc.fileName world.files).Nodup) :
    NamesKept (enter P world now request).1 (enter P world now request).2 := by
  refine ⟨by rw [enter_files]; exact distinct, ?_⟩
  cases entered : (enter P world now request).2 with
  | respond response => trivial
  | unhandled => trivial
  | await wait =>
    -- only `updateFile` can stand inside `updateFile`, and a create stands at its check
    rcases enter_eq_await entered with
      ⟨_, _, _, _, _, rfl, _⟩ | ⟨_, _, rfl⟩ | ⟨_, _, _, rfl⟩ | ⟨_, _, _, _, _, rfl, rfl⟩ |
      ⟨_, _, _, rfl⟩ | ⟨_, _, _, _, rfl⟩ | ⟨_, _, _, rfl⟩ | ⟨_, _, rfl, _⟩
    · trivial
    · trivial
    · trivial
    · exact notUpdate.elim
    · trivial
    · trivial
    · trivial
    · trivial

/-- A request other than `updateFile`, served alone, keeps the names distinct. -/
theorem serve_keeps_fileNames_distinct {P : Platform} {world : World} {now : Nat}
    {request : Request} {envs : List Env} {final : World × Outcome Wait}
    (notUpdate : NotUpdate request) (distinct : (Table.column FileDoc.fileName world.files).Nodup)
    (served : serve P world now request envs = some final) :
    (Table.column FileDoc.fileName final.1.files).Nodup :=
  (resumeAll_invariant NamesKept (fun _ _ env kept => namesKept_resume env kept) envs _ _ final
    (namesKept_enter notUpdate distinct) served).1

/-- **While the server handles one request at a time, file names stay distinct**, so long as no
request is an `updateFile`: every create checks its name and saves it with nothing in between. -/
theorem fileNames_distinct_sequential {P : Platform} {disk : Disk}
    {blocks : List (Request × Nat × List Env)} {final : Server}
    (notUpdate : ∀ block ∈ blocks, NotUpdate block.1)
    (ran : Transition.run (step P) (initial disk) (sequentialLabels 0 blocks) = some final) :
    (Table.column FileDoc.fileName final.world.files).Nodup := by
  refine sequential_invariant (fun server => (Table.column FileDoc.fileName server.world.files).Nodup)
    NotUpdate ?_ blocks (initial disk) final threadsKeyed_initial (by simp [initial, Table.column])
    notUpdate ran
  intro server server' request now envs keyed distinct allowed alone
  rw [run_alone server keyed.fresh, Option.map_eq_some_iff] at alone
  obtain ⟨ended, served, rfl⟩ := alone
  exact serve_keeps_fileNames_distinct allowed distinct served

/-- Two creates and a read, served one after another. -/
def createTwice : List (Request × Nat × List Env) :=
  [(.createFile (bearer 0) [("fileName", .string "a.txt"), ("filePath", .string "-")]
      (some ⟨"file", "a.txt", "text/plain", [1], by decide⟩), 1, [⟨.resolve, 1, ""⟩, ⟨.resolve, 1, ""⟩]),
    (.createFile (bearer 0) [("fileName", .string "a.txt"), ("filePath", .string "-")]
      (some ⟨"file", "a.txt", "text/plain", [2], by decide⟩), 2, [⟨.resolve, 2, ""⟩]),
    (.readFile (bearer 0), 3, [⟨.resolve, 3, ""⟩])]

theorem fileNames_distinct_sequential_standIn :
    (∀ block ∈ createTwice, NotUpdate block.1) ∧
    ∃ final, Transition.run (step standIn) (initial fun _ => none) (sequentialLabels 0 createTwice) =
      some final ∧ (Table.column FileDoc.fileName final.world.files).Nodup := by
  obtain ⟨final, ran⟩ := Option.isSome_iff_exists.mp (by decide :
    (Transition.run (step standIn) (initial fun _ => none) (sequentialLabels 0 createTwice)).isSome)
  exact ⟨by decide, final, ran, fileNames_distinct_sequential (by decide) ran⟩

/-- A create request for `name` on `standIn`, with the file part `a.txt`. -/
def createNamed (name : String) : Request :=
  .createFile (bearer 0) [("fileName", .string name), ("filePath", .string "-")]
    (some ⟨"file", "a.txt", "text/plain", [1], by decide⟩)

/-- Create `a.txt` and `b.txt`, then rename the second to `a.txt`, one request at a time. -/
def renameToTaken : List Label :=
  sequentialLabels 0
    [(createNamed "a.txt", 1, [⟨.resolve, 1, ""⟩, ⟨.resolve, 1, ""⟩]),
      (createNamed "b.txt", 2, [⟨.resolve, 2, ""⟩, ⟨.resolve, 2, ""⟩]),
      (.updateFile (bearer 0) "1" [("fileName", .string "a.txt"), ("filePath", .string "-")], 3,
        [⟨.resolve, 3, ""⟩, ⟨.resolve, 3, ""⟩])]

/-- Two creates of `a.txt` whose checks both run before either saves. -/
def createRace : List Label :=
  [.arrive (createNamed "a.txt") 1, .arrive (createNamed "a.txt") 2,
    .resume 0 ⟨.resolve, 3, ""⟩, .resume 1 ⟨.resolve, 3, ""⟩,
    .resume 0 ⟨.resolve, 4, ""⟩, .resume 1 ⟨.resolve, 4, ""⟩]

/-- **File names are not kept distinct**: a rename with `updateFile`, served alone, and two
creates that interleave at their `await`s each leave two documents named `a.txt`. -/
theorem fileNames_duplicated :
    (Transition.run (step standIn) (initial fun _ => none) renameToTaken).map
        (fun server => Table.column FileDoc.fileName server.world.files) = some ["a.txt", "a.txt"] ∧
    (Transition.run (step standIn) (initial fun _ => none) createRace).map
        (fun server => Table.column FileDoc.fileName server.world.files) =
      some ["a.txt", "a.txt"] := by
  constructor <;> decide

end FileManager
