import ScopeScanner.Proofs.Scanner.Displacement

/-!
# Many calls in one session

A session is used for one call after the other. Each call has a text of its own, and starts with a fresh
stack or goes on from the stack that any earlier call ended with. What the session has learned by then
shows nowhere in what a call yields:

* **`Repository.callOutputs_eq_mapIdx`**: every output is that of the same call in a new session.

What carries this is `Session.Sound`: a scan starts in a sound session and leaves it sound
(`Repository.scan_sound`), and all sound sessions serve equally well (`Repository.scan_of_sound`).
-/

namespace ScopeScanner

/-- A call in a session. -/
structure Call where
  text : String
  /-- The number of the earlier call to go on from; none for a fresh stack. -/
  resume : Option Nat := none

/-- The stack that a call starts with, given what the calls before it have yielded. -/
def Call.state? (call : Call) (earlier : List ScanOutput) : Option ScopeStack :=
  (call.resume.bind (earlier[·]?)).map ScanOutput.endState

namespace Repository

variable (repository : Repository) (settings : ScannerSettings)

/-- What calls yield that are made one after the other in a session, behind what earlier calls in it
have yielded. -/
def callsOnward : List Call → Session → (earlier : List ScanOutput) → List ScanOutput
  | [], _, earlier => earlier
  | call :: rest, session, earlier =>
    let (output, session) := repository.scan settings session call.text (call.state? earlier)
    callsOnward rest session (earlier ++ [output])

/-- What calls yield that are made one after the other in one session. -/
def callOutputs (calls : List Call) : List ScanOutput :=
  repository.callsOnward settings calls {} []

/-- What a call yields in a new session. -/
def callAlone (call : Call) (earlier : List ScanOutput) : ScanOutput :=
  (repository.scan settings {} call.text (call.state? earlier)).1

/-- In a sound session each call yields what it yields alone. By induction on the calls, each of which
leaves the session sound for those after it. -/
theorem callsOnward_eq {session : Session} (hsession : session.Sound repository) (calls : List Call)
    (earlier : List ScanOutput) :
    ∃ later, repository.callsOnward settings calls session earlier = earlier ++ later ∧
      later = calls.mapIdx fun i call =>
        repository.callAlone settings call (earlier ++ later.take i) := by
  induction calls generalizing session earlier with
  | nil => exact ⟨[], by simp [callsOnward], rfl⟩
  | cons call rest ih =>
    have halone : (repository.scan settings session call.text (call.state? earlier)).1 =
        repository.callAlone settings call earlier :=
      repository.scan_of_sound settings hsession (.new repository) call.text _
    have hsound := repository.scan_sound settings hsession call.text (call.state? earlier)
    obtain ⟨later, honward, hlater⟩ :=
      ih hsound (earlier ++ [repository.callAlone settings call earlier])
    refine ⟨repository.callAlone settings call earlier :: later, ?_, ?_⟩
    · rw [callsOnward]
      dsimp only
      rw [halone, honward, List.append_assoc, List.singleton_append]
    · rw [List.mapIdx_cons]
      congr 1
      · rw [List.take_zero, List.append_nil]
      · -- behind the first output the others are those of the remaining calls
        simpa only [List.take_succ_cons, List.append_assoc, List.singleton_append] using hlater

/-- **Sharing a session changes no output.** Of any calls made in one session, each yields what the same
call, with the same stack to start with, yields in a new session. -/
theorem callOutputs_eq_mapIdx (calls : List Call) :
    repository.callOutputs settings calls = calls.mapIdx fun i call =>
      repository.callAlone settings call ((repository.callOutputs settings calls).take i) := by
  obtain ⟨later, honward, hlater⟩ :=
    repository.callsOnward_eq settings (.new repository) calls []
  rw [List.nil_append] at honward
  simp only [List.nil_append] at hlater
  rw [callOutputs, honward]
  exact hlater

end Repository

end ScopeScanner
