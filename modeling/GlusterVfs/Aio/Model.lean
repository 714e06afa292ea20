import Mathlib

/-!
# The asynchronous I/O handshake

`vfs_gluster_pread_send`, `vfs_gluster_pwrite_send` and `vfs_gluster_fsync_send`
hand an operation to the gluster library together with a
`glusterfs_aio_state`, allocated in the `NULL` talloc context so that it can
outlive its request. The library calls `aio_glusterfs_done` on one of its own
threads when the operation completes; that callback stores the result in the
state and writes the state pointer to a pipe. The smbd main loop reads the
pipe in `aio_tevent_fd_done`, frees the state if its request is gone
(`cancelled`), and otherwise marks the request done. `vfs_gluster_recv`
copies the result out of the state and frees it. Destroying the request runs
`aio_wrapper_destructor`, which only marks the state as cancelled.

Objects are told apart by allocation: a request or a state is a `Nat` handed
out from a counter, and the heaps `reqs` and `states` map it to its contents,
`none` once it is freed (or before it exists). A step that reads or writes a
freed state, or calls `tevent_req_done` on a destroyed or already finished
request, does not return a new world but an `AioFault`.

The world evolves by `AioEvent`s: a send with everything the library and
`talloc` answer, the completion of a pending operation, one delivery from the
pipe, and `vfs_gluster_recv` or destruction of a live request. `Enabled` says
when the environment can produce an event; `AioReachable` is every world that
enabled events reach without a fault.
-/

namespace GlusterVfs

/-- `EIO` and `EINVAL` on Linux. -/
def eio : Int := 5
def einval : Int := 22

/-- The state of a `tevent_req` as this module sees it. -/
inductive ReqStatus
  | inProgress
  | done
  | error (err : Int)
deriving DecidableEq, Repr

/-- A live `tevent_req` of this module: where it stands, and the `state`
pointer of its private `glusterfs_aio_wrapper`. -/
structure AioReq where
  state : Option Nat
  status : ReqStatus
deriving DecidableEq, Repr

/-- A `glusterfs_aio_state`: `ret`, `vfs_aio_state.error`, `req` and
`cancelled`. The timing fields are left out. `completion` is not a field of
the C struct but ghost state: the `(ret, errno)` that `aio_glusterfs_done`
received for the state, `none` until it runs. No function of the module reads
it. -/
structure AioState where
  ret : Int
  error : Int
  req : Nat
  cancelled : Bool
  completion : Option (Int × Int)
deriving DecidableEq, Repr

/-- The requests and states of the process, the operations the gluster
library still holds (`pending`), the state pointers written to the pipe and
not yet read (oldest first), and whether `read_fd` is set up. -/
structure AioWorld where
  reqs : Nat → Option AioReq
  states : Nat → Option AioState
  nextReq : Nat
  nextState : Nat
  pending : List Nat
  pipe : List Nat
  readFd : Bool

/-- No request, no state, no pipe yet. -/
def AioWorld.init : AioWorld := ⟨fun _ => none, fun _ => none, 0, 0, [], [], false⟩

/-- What goes wrong when the handshake misuses memory or a request. -/
inductive AioFault
  /-- a read, write or `TALLOC_FREE` of a freed state -/
  | stateFreed (s : Nat)
  /-- `tevent_req_done` on a destroyed request -/
  | reqDestroyed (r : Nat)
  /-- `tevent_req_done` on a request that has already finished -/
  | reqFinished (r : Nat)
deriving DecidableEq, Repr

/-! ## Submission -/

/-- What the library and `talloc` answer during one send. -/
structure SendEnv where
  /-- `vfs_gluster_fetch_glfd(handle, fsp)` finds the gluster fd. -/
  fetchGlfd : Bool
  /-- `tevent_req_create` succeeds. -/
  reqCreate : Bool
  /-- `talloc_zero(NULL, struct glusterfs_aio_state)` succeeds. -/
  stateAlloc : Bool
  /-- `pipe(fds)` and `tevent_add_fd` in `init_gluster_aio` succeed. -/
  pipe : Bool
  /-- What `glfs_pread_async`, `glfs_pwrite_async` and `glfs_fsync_async`
  return. -/
  glfsPreadAsync : Int
  glfsPwriteAsync : Int
  glfsFsyncAsync : Int

/-- `tevent_req_done` and `tevent_req_error` on a request known to be live:
its new status. -/
def AioWorld.setStatus (w : AioWorld) (r : Nat) (status : ReqStatus) : AioWorld :=
  { w with reqs := Function.update w.reqs r ((w.reqs r).map fun rq => { rq with status }) }

/-- `aio_state_create(mem_ctx)`: a new request whose wrapper points at a new,
zeroed state whose `req` points back. Returns the state and its `req`, or
`NULL` when an allocation fails (a request allocated first is freed again
before its destructor is set, so nothing is left). -/
def aioStateCreate (env : SendEnv) (w : AioWorld) : Option (Nat × Nat) × AioWorld :=
  if env.reqCreate && env.stateAlloc then
    (some (w.nextState, w.nextReq),
      { w with
        reqs := Function.update w.reqs w.nextReq (some ⟨some w.nextState, .inProgress⟩)
        states := Function.update w.states w.nextState (some ⟨0, 0, w.nextReq, false, none⟩)
        nextReq := w.nextReq + 1
        nextState := w.nextState + 1 })
  else (none, w)

/-- `init_gluster_aio(handle)`: the pipe and its fd event, set up once per
process; a failure closes what was opened and leaves `read_fd` at -1. -/
def initGlusterAio (env : SendEnv) (w : AioWorld) : Bool × AioWorld :=
  if w.readFd then (true, w)
  else if env.pipe then (true, { w with readFd := true })
  else (false, w)

/-- The body shared by the three send functions, given what their
`glfs_*_async` call returns: the request returned (`none` for `NULL`) and the
world after it. A failure after `aio_state_create` finishes the request with
an error (`tevent_req_error` then `tevent_req_post`); a submitted operation
becomes pending with its state as the callback's data. -/
def glusterAioSend (asyncRet : Int) (env : SendEnv) (w : AioWorld) : Option Nat × AioWorld :=
  if env.fetchGlfd = false then (none, w)
  else
    match aioStateCreate env w with
    | (none, w) => (none, w)
    | (some (state, req), w) =>
      match initGlusterAio env w with
      | (false, w) => (some req, w.setStatus req (.error eio))
      | (true, w) =>
        if asyncRet < 0 then (some req, w.setStatus req (.error (-asyncRet)))
        else (some req, { w with pending := w.pending ++ [state] })

/-- `vfs_gluster_pread_send`. -/
def vfsGlusterPreadSend (env : SendEnv) (w : AioWorld) : Option Nat × AioWorld :=
  glusterAioSend env.glfsPreadAsync env w

/-- `vfs_gluster_pwrite_send`. -/
def vfsGlusterPwriteSend (env : SendEnv) (w : AioWorld) : Option Nat × AioWorld :=
  glusterAioSend env.glfsPwriteAsync env w

/-- `vfs_gluster_fsync_send`. -/
def vfsGlusterFsyncSend (env : SendEnv) (w : AioWorld) : Option Nat × AioWorld :=
  glusterAioSend env.glfsFsyncAsync env w

/-! ## Completion and delivery -/

/-- `aio_glusterfs_done(fd, ret, state)` on a gluster thread, with the
`errno` of a failed operation and whether `sys_write` of the state pointer to
the pipe succeeds (a failed write is only logged). The library calls back once
per operation, so the state is no longer pending; the ghost `completion`
records what the callback received. -/
def aioGlusterfsDone (s : Nat) (ret errno : Int) (written : Bool) (w : AioWorld) :
    Except AioFault AioWorld :=
  match w.states s with
  | none => .error (.stateFreed s)
  | some st =>
    let st := if ret < 0 then { st with ret := -1, error := errno } else { st with ret }
    let w := { w with
      states := Function.update w.states s (some { st with completion := some (ret, errno) })
      pending := w.pending.erase s }
    .ok (if written then { w with pipe := w.pipe ++ [s] } else w)

/-- `tevent_req_done(req)`. -/
def teventReqDone (r : Nat) (w : AioWorld) : Except AioFault AioWorld :=
  match w.reqs r with
  | none => .error (.reqDestroyed r)
  | some rq => if rq.status = .inProgress then .ok (w.setStatus r .done) else .error (.reqFinished r)

/-- `aio_tevent_fd_done`: read the oldest state pointer off the pipe; free a
cancelled state, otherwise mark its request done. The fd event fires only
when the pipe holds a pointer, and a read of one pointer is atomic. -/
def aioTeventFdDone (w : AioWorld) : Except AioFault AioWorld :=
  match w.pipe with
  | [] => .ok w
  | s :: rest =>
    let w := { w with pipe := rest }
    match w.states s with
    | none => .error (.stateFreed s)
    | some st =>
      if st.cancelled then .ok { w with states := Function.update w.states s none }
      else teventReqDone st.req w

/-! ## Receiving and destroying a request -/

/-- `tevent_req_is_unix_error(req, &err)`: the error of a request that has
not finished successfully; a request still in progress reads as `EINVAL`. -/
def teventReqIsUnixError : ReqStatus → Option Int
  | .done => none
  | .error err => some err
  | .inProgress => some einval

/-- What `vfs_gluster_recv` returns, and what it stores in
`vfs_aio_state->error` (`none`: nothing). -/
structure RecvResult where
  ret : Int
  error : Option Int
deriving DecidableEq, Repr

/-- `vfs_gluster_recv(req, vfs_aio_state)` on a live request: -1 without a
state or on an error; otherwise the state's result, after which the state is
freed and the wrapper's pointer cleared (`TALLOC_FREE(wrapper->state)`). -/
def vfsGlusterRecv (r : Nat) (w : AioWorld) : Except AioFault (RecvResult × AioWorld) :=
  match w.reqs r with
  | none => .error (.reqDestroyed r)
  | some rq =>
    match rq.state with
    | none => .ok (⟨-1, none⟩, w)
    | some s =>
      match teventReqIsUnixError rq.status with
      | some err => .ok (⟨-1, some err⟩, w)
      | none =>
        match w.states s with
        | none => .error (.stateFreed s)
        | some st =>
          .ok (⟨st.ret, some st.error⟩,
            { w with
              states := Function.update w.states s none
              reqs := Function.update w.reqs r (some { rq with state := none }) })

/-- `talloc_free(req)` of a live request: `aio_wrapper_destructor` marks the
state the wrapper still points at as cancelled, and the request is gone. -/
def aioWrapperDestructor (r : Nat) (w : AioWorld) : Except AioFault AioWorld :=
  match w.reqs r with
  | none => .ok w
  | some rq =>
    let w := { w with reqs := Function.update w.reqs r none }
    match rq.state with
    | none => .ok w
    | some s =>
      match w.states s with
      | none => .error (.stateFreed s)
      | some st => .ok { w with states := Function.update w.states s (some { st with cancelled := true }) }

/-! ## What each function does on a live object -/

section Spec

variable {w : AioWorld} {r s : Nat} {rq : AioReq} {st : AioState}

/-- The world after a send that got past `aio_state_create`: the new request
with the status the send left it in, its new state, pending when the operation
was submitted, and `read_fd` as `init_gluster_aio` left it. -/
def AioWorld.submitted (w : AioWorld) (status : ReqStatus) (readFd : Bool) : AioWorld :=
  { w with
    reqs := Function.update w.reqs w.nextReq (some ⟨some w.nextState, status⟩)
    states := Function.update w.states w.nextState (some ⟨0, 0, w.nextReq, false, none⟩)
    nextReq := w.nextReq + 1
    nextState := w.nextState + 1
    pending := if status = .inProgress then w.pending ++ [w.nextState] else w.pending
    readFd }

/-- What a send leaves: nothing new when `vfs_gluster_fetch_glfd` or an
allocation fails; otherwise the new request finished with `EIO` when no pipe
can be set up, with the error of a failed `glfs_*_async`, or in progress. -/
theorem glusterAioSend_eq (asyncRet : Int) (env : SendEnv) (w : AioWorld) :
    (glusterAioSend asyncRet env w).2 =
      if env.fetchGlfd && env.reqCreate && env.stateAlloc then
        w.submitted
          (if w.readFd || env.pipe then
            (if asyncRet < 0 then .error (-asyncRet) else .inProgress)
          else .error eio)
          (w.readFd || env.pipe)
      else w := by
  unfold glusterAioSend aioStateCreate initGlusterAio
  -- the branches in the order the source takes them
  cases hf : env.fetchGlfd
  · rfl
  cases hc : env.reqCreate && env.stateAlloc
  · simp [hc]
  cases hr : w.readFd <;> cases hp : env.pipe <;> by_cases ha : asyncRet < 0 <;>
    simp [hc, ha, AioWorld.submitted, AioWorld.setStatus]

/-- `aio_glusterfs_done` on an allocated state: the result is stored, the
completion recorded, and the state's pointer is in the pipe if the write
succeeded. -/
theorem aioGlusterfsDone_of_state (ret errno : Int) (written : Bool) (hs : w.states s = some st) :
    aioGlusterfsDone s ret errno written w = .ok { w with
      states := Function.update w.states s
        (some ⟨if ret < 0 then -1 else ret, if ret < 0 then errno else st.error, st.req,
          st.cancelled, some (ret, errno)⟩)
      pending := w.pending.erase s
      pipe := if written then w.pipe ++ [s] else w.pipe } := by
  simp only [aioGlusterfsDone, hs]
  split_ifs <;> rfl

/-- Delivery of a cancelled state frees it. -/
theorem aioTeventFdDone_of_cancelled {rest : List Nat} (hp : w.pipe = s :: rest)
    (hs : w.states s = some st) (hc : st.cancelled = true) :
    aioTeventFdDone w = .ok { w with pipe := rest, states := Function.update w.states s none } := by
  simp [aioTeventFdDone, hp, hs, hc]

/-- Delivery of a state whose request is live and in progress marks that
request done. -/
theorem aioTeventFdDone_of_live {rest : List Nat} (hp : w.pipe = s :: rest)
    (hs : w.states s = some st) (hc : st.cancelled = false) (hr : w.reqs st.req = some rq)
    (hdone : rq.status = .inProgress) :
    aioTeventFdDone w = .ok { w with
      pipe := rest, reqs := Function.update w.reqs st.req (some { rq with status := .done }) } := by
  simp [aioTeventFdDone, hp, hs, hc, teventReqDone, hr, hdone, AioWorld.setStatus]

/-- A delivery that does not fault has read the oldest pointer off the
pipe. -/
theorem aioTeventFdDone_pipe {w' : AioWorld} {rest : List Nat} (hp : w.pipe = s :: rest)
    (h : aioTeventFdDone w = .ok w') : w'.pipe = rest := by
  simp only [aioTeventFdDone, hp, teventReqDone, AioWorld.setStatus] at h
  repeat' split at h
  all_goals cases h
  all_goals rfl

/-- `vfs_gluster_recv` that gets past its checks returns the state's result
and frees it. -/
theorem vfsGlusterRecv_of_done (hr : w.reqs r = some rq) (hrs : rq.state = some s)
    (hdone : rq.status = .done) (hs : w.states s = some st) :
    vfsGlusterRecv r w = .ok (⟨st.ret, some st.error⟩, { w with
      states := Function.update w.states s none
      reqs := Function.update w.reqs r (some { rq with state := none }) }) := by
  simp [vfsGlusterRecv, hr, hrs, hdone, hs, teventReqIsUnixError]

/-- `vfs_gluster_recv` of a request without a state or not done returns -1
and changes nothing. -/
theorem vfsGlusterRecv_of_not_done (hr : w.reqs r = some rq)
    (h : rq.state = none ∨ rq.status ≠ .done) :
    ∃ res : RecvResult, res.ret = -1 ∧ vfsGlusterRecv r w = .ok (res, w) := by
  simp only [vfsGlusterRecv, hr]
  cases hrs : rq.state with
  | none => exact ⟨⟨-1, _⟩, rfl, rfl⟩
  | some s =>
    -- a request with a state that is not done is an error for `tevent_req_is_unix_error`
    cases hst : rq.status with
    | done => simp [hrs, hst] at h
    | inProgress => exact ⟨⟨-1, _⟩, rfl, rfl⟩
    | error e => exact ⟨⟨-1, _⟩, rfl, rfl⟩

theorem aioWrapperDestructor_of_none (hr : w.reqs r = some rq) (hrs : rq.state = none) :
    aioWrapperDestructor r w = .ok { w with reqs := Function.update w.reqs r none } := by
  simp [aioWrapperDestructor, hr, hrs]

/-- Destroying a request whose wrapper points at an allocated state marks
the state cancelled. -/
theorem aioWrapperDestructor_of_state (hr : w.reqs r = some rq) (hrs : rq.state = some s)
    (hs : w.states s = some st) :
    aioWrapperDestructor r w = .ok { w with
      reqs := Function.update w.reqs r none
      states := Function.update w.states s (some { st with cancelled := true }) } := by
  simp [aioWrapperDestructor, hr, hrs, hs]

end Spec

/-! ## Runs -/

/-- The three send functions. -/
inductive AioOp
  | pread
  | pwrite
  | fsync
deriving DecidableEq, Repr

/-- The send function of an operation. -/
def AioOp.send : AioOp → SendEnv → AioWorld → Option Nat × AioWorld
  | .pread => vfsGlusterPreadSend
  | .pwrite => vfsGlusterPwriteSend
  | .fsync => vfsGlusterFsyncSend

/-- One event of the handshake. -/
inductive AioEvent
  /-- smbd starts an operation -/
  | send (op : AioOp) (env : SendEnv)
  /-- the gluster library completes the pending operation of state `s` -/
  | complete (s : Nat) (ret errno : Int) (written : Bool)
  /-- the main loop runs `aio_tevent_fd_done` -/
  | deliver
  /-- smbd runs `vfs_gluster_recv` on request `r` -/
  | recv (r : Nat)
  /-- request `r` is freed -/
  | destroy (r : Nat)

/-- When the environment can produce an event: a completion only for a
pending operation, a delivery only when the pipe holds a pointer, and smbd
uses only live requests. -/
def AioEvent.Enabled : AioEvent → AioWorld → Prop
  | .send _ _, _ => True
  | .complete s _ _ _, w => s ∈ w.pending
  | .deliver, w => w.pipe ≠ []
  | .recv r, w => (w.reqs r).isSome
  | .destroy r, w => (w.reqs r).isSome

instance AioEvent.decEnabled (w : AioWorld) : (e : AioEvent) → Decidable (e.Enabled w)
  | .send _ _ => inferInstanceAs (Decidable True)
  | .complete s _ _ _ => inferInstanceAs (Decidable (s ∈ w.pending))
  | .deliver => inferInstanceAs (Decidable (w.pipe ≠ []))
  | .recv r => inferInstanceAs (Decidable ((w.reqs r).isSome = true))
  | .destroy r => inferInstanceAs (Decidable ((w.reqs r).isSome = true))

/-- One event: the world after it, or the fault it runs into. -/
def aioStep (w : AioWorld) : AioEvent → Except AioFault AioWorld
  | .send op env => .ok (op.send env w).2
  | .complete s ret errno written => aioGlusterfsDone s ret errno written w
  | .deliver => aioTeventFdDone w
  | .recv r => (vfsGlusterRecv r w).map Prod.snd
  | .destroy r => aioWrapperDestructor r w

/-- An enabled event that runs without a fault. -/
def AioNext (w w' : AioWorld) : Prop :=
  ∃ e : AioEvent, e.Enabled w ∧ aioStep w e = .ok w'

/-- The worlds reachable from the start without a fault. -/
def AioReachable (w : AioWorld) : Prop :=
  Relation.ReflTransGen AioNext AioWorld.init w

/-- A run of events: the world at its end, or `none` if one of them is not
enabled or faults. -/
def aioRun (w : AioWorld) : List AioEvent → Option AioWorld
  | [] => some w
  | e :: es =>
    if e.Enabled w then
      match aioStep w e with
      | .ok w' => aioRun w' es
      | .error _ => none
    else none

theorem aioRun_reachTrans {w w' : AioWorld} :
    ∀ {es : List AioEvent}, aioRun w es = some w' → Relation.ReflTransGen AioNext w w'
  | [], h => by cases h; exact .refl
  | e :: es, h => by
    simp only [aioRun] at h
    split_ifs at h with he
    split at h
    · exact .head ⟨e, he, ‹_›⟩ (aioRun_reachTrans h)
    · cases h

theorem AioReachable.of_aioRun {w w' : AioWorld} {es : List AioEvent} (hw : AioReachable w)
    (h : aioRun w es = some w') : AioReachable w' :=
  hw.trans (aioRun_reachTrans h)

end GlusterVfs
