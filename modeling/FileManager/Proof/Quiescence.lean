import Mathlib
import FileManager.Proof.Answered

/-!
**No request is left waiting.**

A request that waits on a call goes on when the call settles, and by `resumeWait_progress` every
resume brings it closer to its answer. So from any state the server has reached, whatever the
calls return, the server can bring every request in flight to its end: resuming the requests that
wait, at most `awaitsInFlight` times, leaves none waiting, each answered or ended without an
answer.

* `awaitsInFlight` — the awaits the requests in flight may still make; `resume_lowers` — a
  waiting request can be resumed, and the resume spends one of them at least;
* `requests_drain` — the drain, a case of `Transition.drain`.
-/

namespace FileManager

/-! ### The awaits in flight -/

/-- The awaits a handler may still make from where it stands: none once it has answered, or has
ended without an answer. -/
def Outcome.awaitsLeft : Outcome Wait → Nat
  | .await wait => wait.awaitsLeft
  | .respond _ => 0
  | .unhandled => 0

/-- The awaits the request numbered `id` may still make. -/
def threadAwaitsLeft (threads : List (Nat × Thread)) (id : Nat) : Nat :=
  match Table.get threads id with
  | some (_, thread) => thread.progress.awaitsLeft
  | none => 0

/-- The awaits the requests in flight may still make, all together. -/
def awaitsInFlight (threads : List (Nat × Thread)) : Nat :=
  ((Table.keys threads).map (threadAwaitsLeft threads)).sum

/-- Moving a waiting request to a point with fewer awaits left lowers the awaits in flight: the
other requests keep theirs. -/
theorem awaitsInFlight_set {threads : List (Nat × Thread)} {id : Nat} {request : Request}
    {wait : Wait} (found : Table.get threads id = some (id, ⟨request, .await wait⟩))
    {progress : Outcome Wait} (fewer : progress.awaitsLeft < wait.awaitsLeft) :
    awaitsInFlight (Table.set threads id ⟨request, progress⟩) < awaitsInFlight threads := by
  have present : id ∈ Table.keys threads := List.mem_map_of_mem (Table.get_eq_some found).1
  unfold awaitsInFlight
  rw [Table.keys_set]
  refine List.sum_lt_sum _ _ (fun other _ => ?_) ⟨id, present, ?_⟩
  · by_cases here : other = id
    · subst here
      simp only [threadAwaitsLeft, Table.get_set_of_mem _ present, found]
      exact Nat.le_of_lt fewer
    · simp only [threadAwaitsLeft, Table.get_set_of_ne _ here, le_refl]
  · simp only [threadAwaitsLeft, Table.get_set_of_mem _ present, found]
    exact fewer

/-- A resumed request has fewer awaits left, however its call settled: it has answered, or waits
at a later point. -/
theorem resumeWait_awaitsLeft (P : Platform) (world : World) (env : Env) (wait : Wait) :
    (resumeWait P world env wait).2.awaitsLeft < wait.awaitsLeft := by
  rcases resumeWait_progress P world env wait with ⟨response, answered⟩ | ⟨wait', waiting, fewer⟩
  · simp only [answered, Outcome.awaitsLeft]
    exact wait.awaitsLeft_pos
  · simpa only [waiting, Outcome.awaitsLeft] using fewer

/-- A waiting request is there to resume, and a resume of it spends one of the awaits in flight
at least. -/
theorem resume_lowers {P : Platform} {server : Server} (keyed : ThreadsKeyed server) (env : Env)
    (busy : ∃ entry ∈ server.threads, ∃ wait, entry.2.progress = .await wait) :
    ∃ label server', (∃ id, label = .resume id env) ∧ step P server label = some server' ∧
      awaitsInFlight server'.threads < awaitsInFlight server.threads := by
  obtain ⟨⟨id, request, progress⟩, member, wait, waiting⟩ := busy
  simp only at waiting
  subst waiting
  have found : Table.get server.threads id = some (id, ⟨request, .await wait⟩) :=
    Table.get_of_mem keyed.distinct member
  have stepped : step P server (.resume id env) = some { server with
      world := (resumeWait P server.world env wait).1
      threads := Table.set server.threads id ⟨request, (resumeWait P server.world env wait).2⟩ } := by
    simp only [step, found]
  exact ⟨_, _, ⟨id, rfl⟩, stepped,
    awaitsInFlight_set found (resumeWait_awaitsLeft P server.world env wait)⟩

/-! ### The requests drain -/

/-- **No request is left waiting.** From any reachable state, however the awaited calls settle,
the server can bring every request in flight to its end by resumes alone, at most
`awaitsInFlight` of them: after them no request waits on a call. -/
theorem requests_drain {P : Platform} {disk : Disk} {server : Server}
    (reachable : Transition.Reachable (step P) (initial disk) server) (env : Env) :
    ∃ resumes final, (∀ label ∈ resumes, ∃ id, label = .resume id env) ∧
      resumes.length ≤ awaitsInFlight server.threads ∧
      Transition.run (step P) server resumes = some final ∧
      ∀ entry ∈ final.threads, ∀ wait, entry.2.progress ≠ .await wait := by
  obtain ⟨resumes, final, resumesOnly, bounded, resumed, _, answered⟩ :=
    Transition.drain (fun label : Label => ∃ id, label = .resume id env) ThreadsKeyed
      (fun server => ∃ entry ∈ server.threads, ∃ wait, entry.2.progress = .await wait)
      (fun server => awaitsInFlight server.threads)
      (fun _ _ _ _ keyed stepped => threadsKeyed_step keyed stepped)
      (fun _ keyed busy => resume_lowers (P := P) keyed env busy) server
      (threadsKeyed_reachable reachable)
  refine ⟨resumes, final, resumesOnly, bounded, resumed, ?_⟩
  intro entry member wait same
  exact answered ⟨entry, member, wait, same⟩

/-- A read of the list of files and a registration, both waiting on the database. -/
def readAndRegister : List Label :=
  [.arrive (.readFile (bearer 0)) 1, .arrive (.register (some "ann") (some "x@y.z") (some "pw")) 1]

theorem requests_drain_standIn :
    ∃ server, Transition.Reachable (step standIn) (initial fun _ => none) server ∧
      0 < awaitsInFlight server.threads ∧
      ∃ resumes final, (∀ label ∈ resumes, ∃ id, label = .resume id ⟨.resolve, 2, "s"⟩) ∧
        resumes.length ≤ awaitsInFlight server.threads ∧
        Transition.run (step standIn) server resumes = some final ∧
        ∀ entry ∈ final.threads, ∀ wait, entry.2.progress ≠ .await wait := by
  obtain ⟨server, ran⟩ := Option.isSome_iff_exists.mp (by decide :
    (Transition.run (step standIn) (initial fun _ => none) readAndRegister).isSome)
  have inFlight : (Transition.run (step standIn) (initial fun _ => none) readAndRegister).map
      (fun server : Server => decide (0 < awaitsInFlight server.threads)) = some true := by
    decide
  rw [ran] at inFlight
  simp only [Option.map_some, Option.some.injEq, decide_eq_true_eq] at inFlight
  exact ⟨server, ⟨readAndRegister, ran⟩, inFlight,
    requests_drain ⟨readAndRegister, ran⟩ ⟨.resolve, 2, "s"⟩⟩

end FileManager
