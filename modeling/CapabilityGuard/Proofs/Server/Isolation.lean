import CapabilityGuard.Proofs.Guard.Demand
import CapabilityGuard.Proofs.Message.Spelling
import CapabilityGuard.Proofs.Store.Frame
import CapabilityGuard.Server.Event

/-! Containers are isolated from each other over whole runs. What is committed for a container and
what is staged for it changes only by a request that names it and shows an admin capability for it.
A commit brings in nothing else, because nothing else was staged. -/
namespace CapabilityGuard

namespace Server

/-- The bytes ask for a change of the container and show an admin capability for it that verifies
under the key. -/
def Entitled (key : Key) (cid : ContainerId) (bytes : List UInt8) : Prop :=
  ∃ request demand cap, Request.format.readAll bytes = .ok request ∧
    request.demand? = some demand ∧ demand.change.cid = cid ∧ demand.cap = some cap ∧
    cap.mac = .compute key cap.data.payload.toList ∧ cap.data.cid = cid ∧
    cap.data.op = .admin

/-- The container is committed as `entry` says and no staged change names it. -/
structure Isolated (cid : ContainerId) (entry : Option Acls) (s : Store) : Prop where
  committed : s.containers[cid]? = entry
  unstaged : s.EachStaged fun change => change.cid ≠ cid

variable {server : Server} {cid : ContainerId} {entry : Option Acls} {s : Store}

theorem Isolated.change (isolated : Isolated cid entry s) {change : Change}
    (other : change.cid ≠ cid) (txn? : Option TxnRef) :
    Isolated cid entry (s.change txn? change).2 where
  committed := (Store.change_frame other txn?).trans isolated.committed
  unstaged := isolated.unstaged.change other txn?

theorem Isolated.serve (isolated : Isolated cid entry s) {bytes : List UInt8}
    (stranger : ¬ Entitled server.guard.key cid bytes) :
    Isolated cid entry (server.serve bytes s).2 := by
  rcases serve_cases server bytes s with kept |
    ⟨request, demand, received, asked, admitted, served⟩
  · rwa [kept]
  · rw [served]
    apply isolated.change
    intro named
    obtain ⟨cap, shown, issued, scope, admin⟩ := Guard.admits_iff.mp admitted
    have role : cap.data.op = .admin := by simpa [Guard.isAdmin] using admin
    exact stranger ⟨request, demand, cap, received.read, asked, named, shown, issued,
      scope.trans named, role⟩

theorem Isolated.step (isolated : Isolated cid entry s) {event : Event}
    (strangers : ∀ bytes, event = .request bytes → ¬ Entitled server.guard.key cid bytes) :
    Isolated cid entry (server.step s event) := by
  cases event with
  | request bytes => exact isolated.serve (strangers bytes rfl)
  | begin => exact ⟨isolated.committed, isolated.unstaged.begin⟩
  | commit txn =>
    exact ⟨(Store.commit_frame isolated.unstaged txn).trans isolated.committed,
      isolated.unstaged.commit txn⟩
  | abort txn =>
    exact ⟨by rw [Server.step, Store.abort_frame, isolated.committed], isolated.unstaged.abort txn⟩

theorem Isolated.run (isolated : Isolated cid entry s) {events : List Event}
    (strangers : ∀ bytes, .request bytes ∈ events → ¬ Entitled server.guard.key cid bytes) :
    Isolated cid entry (server.run s events) := by
  induction events generalizing s with
  | nil => exact isolated
  | cons event events ih =>
    have next : Isolated cid entry (server.step s event) :=
      isolated.step fun bytes same => strangers bytes (by simp [same])
    exact ih next fun bytes member => strangers bytes (by simp [member])

/-- Without an entitled request a run leaves a container as it was, at every point. -/
theorem container_isolated (server : Server) (cid : ContainerId) (s : Store)
    (events : List Event) (unstaged : s.EachStaged fun change => change.cid ≠ cid)
    (strangers : ∀ bytes, .request bytes ∈ events → ¬ Entitled server.guard.key cid bytes) :
    ∀ earlier, earlier <+: events →
      (server.run s earlier).containers[cid]? = s.containers[cid]? ∧
      (server.run s earlier).EachStaged fun change => change.cid ≠ cid := by
  intro earlier reached
  have start : Isolated cid s.containers[cid]? s := ⟨rfl, unstaged⟩
  have after : Isolated cid s.containers[cid]? (server.run s earlier) :=
    start.run fun bytes member => strangers bytes (reached.subset member)
  exact ⟨after.committed, after.unstaged⟩

theorem entitled_write {key : Key} {request : Request} (countable : request.Countable) :
    Entitled key cid (Request.format.write request) ↔ ∃ demand cap,
      request.demand? = some demand ∧ demand.change.cid = cid ∧ demand.cap = some cap ∧
      cap.mac = .compute key cap.data.payload.toList ∧ cap.data.cid = cid ∧
      cap.data.op = .admin := by
  simp [Entitled, Request.readAll_write countable]

def zeroKey : Key := ⟨.zero 32⟩

def zeroServer : Server := ⟨⟨zeroKey⟩, defaultMaxRequestSize⟩

def zeroCid : ContainerId := ⟨.zero 16⟩

def otherCid : ContainerId := ⟨⟨List.replicate 16 1, rfl⟩⟩

/-- Creates the other container under an issued capability, then asks for changes of the container
of zeros under one for reading, under one for the other container, under a forged one and with
bytes that are no request. -/
def attempts : List Event :=
  let stranger : Capability := .issue zeroKey ⟨otherCid, .admin, ⟨7⟩⟩
  [.begin,
    .request (Request.format.write (.createContainer ⟨some ⟨1⟩, otherCid, some stranger⟩)),
    .request (Request.format.write (.removeContainer
      ⟨none, zeroCid, some (.issue zeroKey ⟨zeroCid, .read, ⟨7⟩⟩)⟩)),
    .request (Request.format.write (.createAcl
      ⟨some ⟨1⟩, zeroCid, .read, ⟨[⟨7⟩]⟩, some stranger⟩)),
    .request (Request.format.write (.removeContainer
      ⟨none, zeroCid, some ⟨⟨zeroCid, .admin, ⟨7⟩⟩, ⟨.zero 32⟩⟩⟩)),
    .request [0, 0, 0, 2],
    .commit ⟨1⟩]

theorem container_isolated_attempts :
    let server : Server := ⟨⟨zeroKey⟩, defaultMaxRequestSize⟩
    let s : Store := { containers := (∅ : Containers).insert zeroCid ∅ }
    (s.EachStaged fun change => change.cid ≠ zeroCid) ∧
    (∀ bytes, .request bytes ∈ attempts → ¬ Entitled zeroKey zeroCid bytes) ∧
    (server.run s attempts).containers[zeroCid]? = some ∅ := by
  intro server s
  have unstaged : s.EachStaged fun change => change.cid ≠ zeroCid := by
    intro txn changes opened
    simp [s] at opened
  have strangers : ∀ bytes, .request bytes ∈ attempts → ¬ Entitled zeroKey zeroCid bytes := by
    intro bytes member
    simp only [attempts, List.mem_cons, Event.request.injEq, reduceCtorEq, false_or, or_false,
      List.not_mem_nil] at member
    have scope : otherCid ≠ zeroCid := by decide
    have role : Operation.read ≠ .admin := by decide
    have forged : (⟨.zero 32⟩ : Mac) ≠
        .compute zeroKey (CapabilityData.payload ⟨zeroCid, .admin, ⟨7⟩⟩).toList := by
      decide +kernel
    rcases member with rfl | rfl | rfl | rfl | rfl
    · rw [entitled_write (by decide)]
      simp [Request.demand?, Change.cid, scope]
    · rw [entitled_write (by decide)]
      simp [Request.demand?, Capability.issue, role]
    · rw [entitled_write (by decide)]
      simp [Request.demand?, Capability.issue, scope]
    · rw [entitled_write (by decide)]
      simp [Request.demand?, forged]
    · intro entitled
      obtain ⟨request, demand, cap, read, _⟩ := entitled
      cases read
  refine ⟨unstaged, strangers, ?_⟩
  rw [(container_isolated server zeroCid s attempts unstaged strangers attempts
    (List.prefix_refl _)).1]
  simp [s]

end Server

end CapabilityGuard
