import GlusterVfs.Aio.Safety

/-!
# Which states are freed

A `glusterfs_aio_state` is freed in two places only: by `vfs_gluster_recv`
once its request is done, and by `aio_tevent_fd_done` when it reads a
cancelled state off the pipe. So a state that is out of flight (not pending,
not in the pipe) and whose request is not done, or gone, is never freed: the
destructor only marks it cancelled (`Doomed`, kept by every step).

Two runs leave such a state behind although everything about it has ended:

* the send fails after `aio_state_create` (here in `init_gluster_aio`), smbd
  receives the error and frees the request;
* the operation completes and is delivered, and the request is freed before
  `vfs_gluster_recv` runs.

In both, the state is quiescent (request destroyed, nothing pending, pipe
empty) and stays allocated on every continuation (`aio_state_leaks`).

`aio_state_freed_iff` says exactly which allocated states some continuation
frees: those in flight, and those whose request is done.
-/

namespace GlusterVfs

open Function (update_same)

/-- A state is quiescent when its request has been destroyed, no gluster
completion for it is pending, and the pipe is empty. -/
def Quiescent (w : AioWorld) (s : Nat) : Prop :=
  (∀ st, w.states s = some st → w.reqs st.req = none) ∧ s ∉ w.pending ∧ w.pipe = []

/-- A quiescent state that is still allocated is doomed. -/
theorem Quiescent.doomed {w : AioWorld} {s : Nat} {st : AioState} (hq : Quiescent w s)
    (hs : w.states s = some st) : Doomed w s :=
  ⟨st, hs, by simp [hq.2.1, hq.2.2], fun rq hrq => by rw [hq.1 st hs] at hrq; cases hrq⟩

/-- A doomed state stays doomed on every continuation. -/
theorem Doomed.forever {w w' : AioWorld} {s : Nat} (hi : AioInv w) (hd : Doomed w s)
    (h : Relation.ReflTransGen AioNext w w') : Doomed w' s := by
  have hrun : AioInv w' ∧ Doomed w' s := by
    induction h with
    | refl => exact ⟨hi, hd⟩
    | tail _ hnext ih =>
      obtain ⟨e, hstep⟩ := ih.1.next hnext
      exact ⟨hstep.inv, hstep.keeps_doomed s ih.2⟩
  exact hrun.2

theorem Doomed.states_ne_none {w : AioWorld} {s : Nat} (hd : Doomed w s) : w.states s ≠ none := by
  obtain ⟨st, hs, -⟩ := hd
  rw [hs]
  exact Option.some_ne_none st

/-! ## Two runs that leak a state -/

/-- A send during which `pipe()` fails: `init_gluster_aio` fails and the
request finishes with `EIO`. -/
def pipeFails : SendEnv := ⟨true, true, true, false, 0, 0, 0⟩

/-- A send whose operation is submitted. -/
def sendSubmits : SendEnv := ⟨true, true, true, true, 0, 0, 0⟩

/-- A read whose send fails in `init_gluster_aio`; smbd receives the error and
frees the request. -/
def initFailsRun : List AioEvent := [.send .pread pipeFails, .recv 0, .destroy 0]

/-- A read of 4096 bytes that completes and is delivered; the request is freed
before `vfs_gluster_recv` runs. -/
def destroyedAfterDoneRun : List AioEvent :=
  [.send .pread sendSubmits, .complete 0 4096 0 true, .deliver, .destroy 0]

/-- A run from the start that ends with state 0 allocated, its request gone,
nothing pending and the pipe empty, leaks state 0 for good. -/
theorem leaks_of_aioRun {es : List AioEvent} {w : AioWorld} {st : AioState}
    (hrun : aioRun AioWorld.init es = some w) (hs : w.states 0 = some st)
    (hr : w.reqs st.req = none) (hp : 0 ∉ w.pending) (hpipe : w.pipe = []) :
    AioReachable w ∧ Quiescent w 0 ∧ ∀ v, Relation.ReflTransGen AioNext w v → v.states 0 ≠ none := by
  have hw : AioReachable w := .of_aioRun .refl hrun
  have hq : Quiescent w 0 := ⟨fun st' hs' => by rw [hs] at hs'; cases hs'; exact hr, hp, hpipe⟩
  exact ⟨hw, hq, fun v hv => ((hq.doomed hs).forever (AioInv.of_reachable hw) hv).states_ne_none⟩

/-- Quiescent but never freed: the state of a send that fails in
`init_gluster_aio`, and the state of a request destroyed between
`tevent_req_done` and `vfs_gluster_recv`. -/
theorem aio_state_leaks :
    (∃ w, aioRun AioWorld.init initFailsRun = some w ∧ AioReachable w ∧ Quiescent w 0 ∧
      ∀ v, Relation.ReflTransGen AioNext w v → v.states 0 ≠ none) ∧
    (∃ w, aioRun AioWorld.init destroyedAfterDoneRun = some w ∧ AioReachable w ∧ Quiescent w 0 ∧
      ∀ v, Relation.ReflTransGen AioNext w v → v.states 0 ≠ none) :=
  ⟨⟨_, rfl, @leaks_of_aioRun initFailsRun _ ⟨0, 0, 0, true, none⟩ rfl rfl rfl (by decide) rfl⟩,
    ⟨_, rfl, @leaks_of_aioRun destroyedAfterDoneRun _ ⟨4096, 0, 0, true, some (4096, 0)⟩ rfl rfl rfl (by decide)
      rfl⟩⟩

/-! ## The states some continuation frees -/

section Freeing

variable {w : AioWorld} (hi : AioInv w)
include hi

/-- Deliveries empty the pipe up to any point. -/
theorem AioInv.deliver_prefix :
    ∀ (xs : List Nat) {rest : List Nat}, w.pipe = xs ++ rest →
      ∃ w', Relation.ReflTransGen AioNext w w' ∧ AioInv w' ∧ w'.pipe = rest := by
  intro xs
  induction xs generalizing w with
  | nil => exact fun hp => ⟨w, .refl, hi, hp⟩
  | cons x xs ih =>
    intro rest hp
    have hne : w.pipe ≠ [] := by simp [hp]
    obtain ⟨w1, h1, hstep⟩ := hi.deliver hne
    obtain ⟨w', h', hi', hp'⟩ := ih hstep.inv (aioTeventFdDone_pipe hp h1)
    exact ⟨w', .head ⟨.deliver, hne, h1⟩ h', hi', hp'⟩

/-- `vfs_gluster_recv` frees the state of a done request. -/
theorem AioInv.freed_of_done {s : Nat} {st : AioState} {rq : AioReq} (hs : w.states s = some st)
    (hr : w.reqs st.req = some rq) (hdone : rq.status = .done) :
    ∃ w', AioNext w w' ∧ w'.states s = none := by
  obtain ⟨rq', hr', hrs⟩ : ∃ rq', w.reqs st.req = some rq' ∧ rq'.state = some s := by
    rcases hi.state_owner s st hs with h | ⟨hgone, -⟩
    · exact h
    · rw [hr] at hgone
      cases hgone
  rw [hr] at hr'
  cases hr'
  exact ⟨_, ⟨.recv st.req, by simp [AioEvent.Enabled, hr], by
    simp only [aioStep, vfsGlusterRecv_of_done hr hrs hdone hs]; rfl⟩, update_same _ _ _⟩

/-- Delivering the oldest pointer frees its state, or marks its request done
for `vfs_gluster_recv` to free it. -/
theorem AioInv.freed_of_pipe_head {s : Nat} {rest : List Nat} (hp : w.pipe = s :: rest) :
    ∃ w', Relation.ReflTransGen AioNext w w' ∧ w'.states s = none := by
  obtain ⟨st, hst, -⟩ := hi.inflight_state s (by simp [hp])
  have hne : w.pipe ≠ [] := by simp [hp]
  cases hcan : st.cancelled
  · obtain ⟨rq, hr, hrs⟩ : ∃ rq, w.reqs st.req = some rq ∧ rq.state = some s := by
      simpa [hcan] using hi.state_owner s st hst
    obtain ⟨-, -, -, -, hfl, -⟩ := hi.wrapper_state st.req rq s hr hrs
    have h1 := aioTeventFdDone_of_live hp hst hcan hr (hfl (by simp [hp]))
    obtain ⟨w', h', hfree⟩ :=
      (hi.deliver_live hp hst hcan hr hrs).inv.freed_of_done hst (update_same _ _ _) rfl
    exact ⟨w', .head ⟨.deliver, hne, h1⟩ (.single h'), hfree⟩
  · exact ⟨_, .single ⟨.deliver, hne, aioTeventFdDone_of_cancelled hp hst hcan⟩, update_same _ _ _⟩

theorem AioInv.freed_of_mem_pipe {s : Nat} (hs : s ∈ w.pipe) :
    ∃ w', Relation.ReflTransGen AioNext w w' ∧ w'.states s = none := by
  obtain ⟨xs, rest, hp⟩ := List.append_of_mem hs
  obtain ⟨w1, h1, hi1, hp1⟩ := hi.deliver_prefix xs hp
  obtain ⟨w', h', hfree⟩ := hi1.freed_of_pipe_head hp1
  exact ⟨w', h1.trans h', hfree⟩

end Freeing

/-- An allocated state is freed on some continuation exactly when it is in
flight or its request is done; every other state stays allocated for good. -/
theorem aio_state_freed_iff (w : AioWorld) (hw : AioReachable w) (s : Nat) (st : AioState)
    (hs : w.states s = some st) :
    (∃ w', Relation.ReflTransGen AioNext w w' ∧ w'.states s = none) ↔
      s ∈ w.pending ++ w.pipe ∨ ∃ rq, w.reqs st.req = some rq ∧ rq.status = .done := by
  have hi := AioInv.of_reachable hw
  constructor
  · rintro ⟨w', hw', hfree⟩
    by_contra hlive
    push_neg at hlive
    exact (Doomed.forever hi ⟨st, hs, hlive.1, hlive.2⟩ hw').states_ne_none hfree
  · rintro (hflight | ⟨rq, hr, hdone⟩)
    · rcases List.mem_append.mp hflight with hpend | hpipe
      · -- the completion writes the pointer to the pipe
        obtain ⟨w1, h1, hstep⟩ := hi.complete hpend 0 0 true
        have hp1 : s ∈ w1.pipe := by
          rw [aioGlusterfsDone_of_state 0 0 true hs] at h1
          cases h1
          simp
        obtain ⟨w', h', hfree⟩ := hstep.inv.freed_of_mem_pipe hp1
        exact ⟨w', .head ⟨.complete s 0 0 true, hpend, h1⟩ h', hfree⟩
      · exact hi.freed_of_mem_pipe hpipe
    · obtain ⟨w', h', hfree⟩ := hi.freed_of_done hs hr hdone
      exact ⟨w', .single h', hfree⟩

theorem aio_state_freed_iff_submitted :
    ∃ w, aioRun AioWorld.init [.send .pread sendSubmits] = some w ∧
      ((∃ w', Relation.ReflTransGen AioNext w w' ∧ w'.states 0 = none) ↔
        0 ∈ w.pending ++ w.pipe ∨ ∃ rq, w.reqs 0 = some rq ∧ rq.status = .done) :=
  ⟨_, rfl, aio_state_freed_iff _ (@AioReachable.of_aioRun AioWorld.init _ [.send .pread sendSubmits]
    .refl rfl) 0 ⟨0, 0, 0, false, none⟩ rfl⟩

end GlusterVfs
