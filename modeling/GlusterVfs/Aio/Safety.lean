import GlusterVfs.Aio.Model
import GlusterVfs.Heap

/-!
# Safety of the aio handshake

`AioInv` is what holds of every reachable world. It ties each live request to
the state its wrapper points at, each allocated state to its request (live, or
gone with the state cancelled), each state in flight (a pending operation, or
a pointer in the pipe) to an allocated state whose request, if still there,
is in progress, and each state's `ret` and `error` to the completion it has
received (`storedResult`).

From it, over every interleaving of sends, completions, deliveries, receives
and destructions (`aio_handshake_safe`):

* no enabled event faults: no step touches a freed state, `tevent_req_done` is
  never called on a destroyed request nor twice on one request;
* a request that is done after a step was done before it, or the step
  delivered that request's own state;
* `vfs_gluster_recv` past its checks returns what `aio_glusterfs_done`
  received for the request's own state, which completes once: a pending
  state has received nothing yet.

`AioInv.step` is the one lemma over the events; it rests on one lemma per
event, each about the world that event's function returns.
-/

namespace GlusterVfs

open Function (update update_same update_noteq)

/-- What `aio_glusterfs_done` leaves in the `ret` and `vfs_aio_state.error` of
a zeroed state once it has received `(ret, errno)`; a state without a
completion is still zero. -/
def storedResult : Option (Int × Int) → Int × Int
  | none => (0, 0)
  | some (ret, errno) => (if ret < 0 then -1 else ret, if ret < 0 then errno else 0)

/-- What holds of every world the handshake reaches. -/
structure AioInv (w : AioWorld) : Prop where
  /-- a state in flight is allocated, and has its completion exactly when it
  is in the pipe -/
  inflight_state : ∀ s ∈ w.pending ++ w.pipe,
    ∃ st, w.states s = some st ∧ (st.completion.isSome ↔ s ∈ w.pipe)
  /-- a state is in flight at most once -/
  inflight_nodup : (w.pending ++ w.pipe).Nodup
  /-- a live wrapper points at an allocated, uncancelled state that points
  back; the request is in progress while that state is in flight, and a done
  request's state has its completion -/
  wrapper_state : ∀ r rq s, w.reqs r = some rq → rq.state = some s →
    ∃ st, w.states s = some st ∧ st.req = r ∧ st.cancelled = false ∧
      (s ∈ w.pending ++ w.pipe → rq.status = .inProgress) ∧
      (rq.status = .done → st.completion.isSome)
  /-- an allocated state belongs to the live request whose wrapper points at
  it, or is cancelled and its request is gone -/
  state_owner : ∀ s st, w.states s = some st →
    (∃ rq, w.reqs st.req = some rq ∧ rq.state = some s) ∨
      (w.reqs st.req = none ∧ st.cancelled = true)
  /-- nothing is allocated from the counters on, and states point below them -/
  reqs_fresh : ∀ r, w.nextReq ≤ r → w.reqs r = none
  states_fresh : ∀ s, w.nextState ≤ s → w.states s = none
  req_lt : ∀ s st, w.states s = some st → st.req < w.nextReq
  /-- a state holds what its completion stored, and zero before it -/
  state_result : ∀ s st, w.states s = some st → (st.ret, st.error) = storedResult st.completion

theorem aioInv_init : AioInv AioWorld.init where
  inflight_state := by simp [AioWorld.init]
  inflight_nodup := List.nodup_nil
  wrapper_state := by simp [AioWorld.init]
  state_owner := by simp [AioWorld.init]
  reqs_fresh := fun _ _ => rfl
  states_fresh := fun _ _ => rfl
  req_lt := by simp [AioWorld.init]
  state_result := by simp [AioWorld.init]

/-! ## What one step guarantees -/

/-- Every request that is done after a step was live before it: done already,
or in progress with its wrapper pointing at the state that the step delivers.
A request the step creates is never done. -/
def MarksOwnDone (e : AioEvent) (w w' : AioWorld) : Prop :=
  ∀ r rq', w'.reqs r = some rq' → rq'.status = .done →
    ∃ rq, w.reqs r = some rq ∧ (rq.status = .done ∨
      e = .deliver ∧ rq.status = .inProgress ∧ ∃ s rest, w.pipe = s :: rest ∧ rq.state = some s)

/-- A step after which every done request was done before marks nothing
done. -/
theorem marksOwnDone_of_done {e : AioEvent} {w w' : AioWorld}
    (h : ∀ r rq', w'.reqs r = some rq' → rq'.status = .done →
      ∃ rq, w.reqs r = some rq ∧ rq.status = .done) :
    MarksOwnDone e w w' :=
  fun r rq' hr' hd => (h r rq' hr' hd).imp fun _ h => ⟨h.1, .inl h.2⟩

/-- So does a step that changes one request and leaves it done only if it
was. -/
theorem marksOwnDone_of_update {e : AioEvent} {w w' : AioWorld} {r : Nat} {v : Option AioReq}
    (hw' : w'.reqs = update w.reqs r v)
    (hv : ∀ rq', v = some rq' → rq'.status = .done → ∃ rq, w.reqs r = some rq ∧ rq.status = .done) :
    MarksOwnDone e w w' :=
  marksOwnDone_of_done fun r' rq' hr' hd => by
    rw [hw'] at hr'
    rcases update_eq_some.mp hr' with ⟨rfl, h⟩ | ⟨-, h⟩
    · exact hv rq' h hd
    · exact ⟨rq', h, hd⟩

theorem marksOwnDone_of_reqs_eq {e : AioEvent} {w w' : AioWorld} (h : w'.reqs = w.reqs) :
    MarksOwnDone e w w' :=
  marksOwnDone_of_done fun r rq' hr' hd => ⟨rq', (congrFun h r).symm.trans hr', hd⟩

/-- A state is doomed when it is allocated, not in flight, and its request, if
still there, is not done: no delivery and no `vfs_gluster_recv` can free it any
more. -/
def Doomed (w : AioWorld) (s : Nat) : Prop :=
  ∃ st, w.states s = some st ∧ s ∉ w.pending ++ w.pipe ∧
    ∀ rq, w.reqs st.req = some rq → rq.status ≠ .done

/-- What an enabled event guarantees besides running without a fault: the
invariant, that it marks a request done only by delivering the request's own
state, and that a doomed state stays doomed. -/
structure StepOk (e : AioEvent) (w w' : AioWorld) : Prop where
  inv : AioInv w'
  marks_own_done : MarksOwnDone e w w'
  keeps_doomed : ∀ s, Doomed w s → Doomed w' s

/-- A step keeps a doomed state doomed when the state stays allocated for the
same request and out of flight, and the request stays as it was or goes. -/
theorem keepsDoomed_of {w w' : AioWorld}
    (h : ∀ s st, w.states s = some st → s ∉ w.pending ++ w.pipe →
      (∀ rq, w.reqs st.req = some rq → rq.status ≠ .done) →
      (∃ st', w'.states s = some st' ∧ st'.req = st.req) ∧ s ∉ w'.pending ++ w'.pipe ∧
        (w'.reqs st.req = w.reqs st.req ∨ w'.reqs st.req = none)) :
    ∀ s, Doomed w s → Doomed w' s := by
  rintro s ⟨st, hs, hf, hnd⟩
  obtain ⟨⟨st', hs', hreq⟩, hf', hr⟩ := h s st hs hf hnd
  refine ⟨st', hs', hf', fun rq hrq => ?_⟩
  rw [hreq] at hrq
  rcases hr with hr | hr
  · exact hnd rq (hr ▸ hrq)
  · rw [hr] at hrq
    cases hrq

theorem StepOk.of_eq {e : AioEvent} {w : AioWorld} (hi : AioInv w) : StepOk e w w :=
  ⟨hi, marksOwnDone_of_reqs_eq rfl, fun _ h => h⟩

/-- Besides the new state, a send puts in flight only what was in flight. -/
theorem submitted_inflight {w : AioWorld} {status : ReqStatus} {readFd : Bool} {s : Nat}
    (hs : s ∈ (w.submitted status readFd).pending ++ (w.submitted status readFd).pipe)
    (hne : s ≠ w.nextState) : s ∈ w.pending ++ w.pipe := by
  simp only [AioWorld.submitted] at hs
  split_ifs at hs <;> simp_all

section Events

variable {w : AioWorld} (hi : AioInv w)
include hi

/-! ## Consequences of the invariant -/

theorem AioInv.inflight_ne_fresh {s : Nat} (hs : s ∈ w.pending ++ w.pipe) : s ≠ w.nextState :=
  fun h => by
    obtain ⟨st, hst, -⟩ := hi.inflight_state s hs
    rw [h, hi.states_fresh _ le_rfl] at hst
    cases hst

/-- A pending state has received no completion yet. -/
theorem AioInv.pending_completion_none {s : Nat} (hs : s ∈ w.pending) :
    ∃ st, w.states s = some st ∧ st.completion = none := by
  obtain ⟨st, hst, hc⟩ := hi.inflight_state s (List.mem_append_left _ hs)
  exact ⟨st, hst, Option.not_isSome_iff_eq_none.mp fun h =>
    List.disjoint_of_nodup_append hi.inflight_nodup hs (hc.mp h)⟩

/-- A live request owns only the state its wrapper points at. -/
theorem AioInv.wrapper_of_owner {x r : Nat} {st : AioState} {rq : AioReq}
    (hx : w.states x = some st) (hreq : st.req = r) (hr : w.reqs r = some rq) :
    rq.state = some x := by
  rcases hi.state_owner x st hx with ⟨rq', hr', hrx⟩ | ⟨hr', -⟩
  · rw [hreq, hr] at hr'
    cases hr'
    exact hrx
  · rw [hreq, hr] at hr'
    cases hr'

/-- A live request whose wrapper points at `s` owns no other state. -/
theorem AioInv.eq_of_owner {x r s : Nat} {st : AioState} {rq : AioReq}
    (hx : w.states x = some st) (hreq : st.req = r) (hr : w.reqs r = some rq)
    (hrs : rq.state = some s) : x = s :=
  Option.some.inj ((hi.wrapper_of_owner hx hreq hr).symm.trans hrs)

/-- Two live wrappers never point at the same state. -/
theorem AioInv.wrapper_inj {r r' s : Nat} {rq rq' : AioReq} (hr : w.reqs r = some rq)
    (hrs : rq.state = some s) (hr' : w.reqs r' = some rq') (hrs' : rq'.state = some s) :
    r' = r := by
  obtain ⟨st, hst, hreq, -⟩ := hi.wrapper_state r rq s hr hrs
  obtain ⟨st', hst', hreq', -⟩ := hi.wrapper_state r' rq' s hr' hrs'
  rw [hst] at hst'
  cases hst'
  exact hreq'.symm.trans hreq

/-- Updating an allocated state or a live request allocates nothing new. -/
theorem AioInv.states_fresh_update {s : Nat} (hs : (w.states s).isSome) (v : Option AioState) :
    ∀ x, w.nextState ≤ x → update w.states s v x = none := fun x hx => by
  have hxs : x ≠ s := fun h => by simp [← h, hi.states_fresh x hx] at hs
  rw [update_noteq hxs, hi.states_fresh x hx]

theorem AioInv.reqs_fresh_update {r : Nat} (hr : (w.reqs r).isSome) (v : Option AioReq) :
    ∀ x, w.nextReq ≤ x → update w.reqs r v x = none := fun x hx => by
  have hxr : x ≠ r := fun h => by simp [← h, hi.reqs_fresh x hx] at hr
  rw [update_noteq hxr, hi.reqs_fresh x hx]

theorem AioInv.req_lt_update {s : Nat} {v : Option AioState}
    (hv : ∀ st, v = some st → st.req < w.nextReq) :
    ∀ x st, update w.states s v x = some st → st.req < w.nextReq := fun x st hx => by
  rcases update_eq_some.mp hx with ⟨-, h⟩ | ⟨-, h⟩
  · exact hv st h
  · exact hi.req_lt x st h

theorem AioInv.state_result_update {s : Nat} {v : Option AioState}
    (hv : ∀ st, v = some st → (st.ret, st.error) = storedResult st.completion) :
    ∀ x st, update w.states s v x = some st → (st.ret, st.error) = storedResult st.completion :=
  fun x st hx => (update_eq_some.mp hx).elim (fun h => hv st h.2) fun h => hi.state_result x st h.2

/-! ### A send -/

theorem AioInv.submitted {status : ReqStatus} (hstatus : status ≠ .done) (readFd : Bool) :
    AioInv (w.submitted status readFd) := by
  have hm : w.states w.nextState = none := hi.states_fresh _ le_rfl
  constructor
  · intro s hs
    rcases eq_or_ne s w.nextState with rfl | hsm
    · exact ⟨_, update_same _ _ _, by
        simpa using fun h => hi.inflight_ne_fresh (List.mem_append_right _ h) rfl⟩
    · obtain ⟨st, hst, hc⟩ := hi.inflight_state s (submitted_inflight hs hsm)
      exact ⟨st, by simp [AioWorld.submitted, update_noteq hsm, hst], hc⟩
  · simp only [AioWorld.submitted]
    split_ifs
    · rw [List.append_assoc, List.singleton_append, List.nodup_middle]
      exact List.nodup_cons.mpr ⟨fun h => hi.inflight_ne_fresh h rfl, hi.inflight_nodup⟩
    · exact hi.inflight_nodup
  · intro r rq s hr hrs
    rcases update_eq_some.mp hr with ⟨rfl, h⟩ | ⟨hrn, hr⟩
    · -- the new request and its new state
      cases h
      cases hrs
      refine ⟨_, update_same _ _ _, rfl, rfl, fun hs => ?_, fun h => absurd h hstatus⟩
      show status = .inProgress
      by_contra hne
      simp only [AioWorld.submitted, if_neg hne] at hs
      exact hi.inflight_ne_fresh hs rfl
    · obtain ⟨st, hst, hreq, hc, hfl, hdone⟩ := hi.wrapper_state r rq s hr hrs
      have hsm : s ≠ w.nextState := fun h => by rw [h, hm] at hst; cases hst
      exact ⟨st, by simp [AioWorld.submitted, update_noteq hsm, hst], hreq, hc,
        fun hs => hfl (submitted_inflight hs hsm), hdone⟩
  · intro s st hs
    rcases update_eq_some.mp hs with ⟨rfl, h⟩ | ⟨hsm, hs⟩
    · cases h
      exact .inl ⟨_, update_same _ _ _, rfl⟩
    · have hreq : st.req ≠ w.nextReq := Nat.ne_of_lt (hi.req_lt s st hs)
      simpa [AioWorld.submitted, update_noteq hreq] using hi.state_owner s st hs
  · intro r hr
    simp only [AioWorld.submitted] at hr ⊢
    rw [update_noteq (by omega), hi.reqs_fresh r (by omega)]
  · intro s hs
    simp only [AioWorld.submitted] at hs ⊢
    rw [update_noteq (by omega), hi.states_fresh s (by omega)]
  · intro s st hs
    rcases update_eq_some.mp hs with ⟨-, h⟩ | ⟨-, hs⟩
    · cases h
      exact Nat.lt_succ_self _
    · exact Nat.lt_succ_of_lt (hi.req_lt s st hs)
  · exact hi.state_result_update fun _ h => by cases h; rfl

theorem AioInv.send (op : AioOp) (env : SendEnv) : StepOk (.send op env) w (op.send env w).2 := by
  -- a send that allocates changes no old object
  have hsub : ∀ status readFd, status ≠ .done → StepOk (.send op env) w (w.submitted status readFd) := by
    intro status readFd hstatus
    refine ⟨hi.submitted hstatus readFd,
      marksOwnDone_of_update rfl fun _ h hd => by cases h; exact absurd hd hstatus,
      keepsDoomed_of fun s st hs hf _ => ?_⟩
    have hsm : s ≠ w.nextState := fun h => by rw [h, hi.states_fresh _ le_rfl] at hs; cases hs
    have hrn : st.req ≠ w.nextReq := Nat.ne_of_lt (hi.req_lt s st hs)
    exact ⟨⟨st, (update_noteq hsm _ _).trans hs, rfl⟩, fun h => hf (submitted_inflight h hsm),
      .inl (update_noteq hrn _ _)⟩
  have hsend : ∀ asyncRet, (op.send env w).2 = (glusterAioSend asyncRet env w).2 →
      StepOk (.send op env) w (op.send env w).2 := by
    intro asyncRet heq
    rw [heq, glusterAioSend_eq]
    split_ifs
    any_goals exact hsub _ _ (by simp)
    exact StepOk.of_eq hi
  cases op <;> exact hsend _ rfl

/-! ### A completion -/

theorem AioInv.complete {s : Nat} (hs : s ∈ w.pending) (ret errno : Int) (written : Bool) :
    ∃ w', aioGlusterfsDone s ret errno written w = .ok w' ∧
      StepOk (.complete s ret errno written) w w' := by
  obtain ⟨st, hst, hnone⟩ := hi.pending_completion_none hs
  -- so `ret` and `error` are still zero
  have hzero : st.ret = 0 ∧ st.error = 0 := by
    simpa [hnone, storedResult] using hi.state_result s st hst
  have hnd := hi.inflight_nodup
  have hpend : w.pending.Nodup := List.Nodup.of_append_left hnd
  -- in flight after the completion: the old ones but `s`, and `s` if written
  have hflight : ∀ x, x ∈ w.pending.erase s ++ (if written then w.pipe ++ [s] else w.pipe) →
      x ≠ s → x ∈ w.pending ++ w.pipe ∧ (x ∈ (if written then w.pipe ++ [s] else w.pipe) ↔
        x ∈ w.pipe) := by
    intro x hx hxs
    rw [List.mem_append, hpend.mem_erase_iff] at hx
    split_ifs at hx ⊢ <;> simp_all
  refine ⟨_, aioGlusterfsDone_of_state ret errno written hst, ⟨?_, marksOwnDone_of_reqs_eq rfl,
    keepsDoomed_of fun x st' hx hf _ => ?_⟩⟩
  swap
  · have hxs : x ≠ s := fun h => hf (h ▸ List.mem_append_left _ hs)
    exact ⟨⟨st', (update_noteq hxs _ _).trans hx, rfl⟩, fun h => hf (hflight x h hxs).1, .inl rfl⟩
  constructor <;> dsimp only
  · intro x hx
    rcases eq_or_ne x s with rfl | hxs
    · -- `s` left the pending list, so it is in flight only in the pipe
      refine ⟨_, update_same _ _ _, iff_of_true rfl ?_⟩
      rw [List.mem_append, hpend.mem_erase_iff] at hx
      exact hx.resolve_left fun h => h.1 rfl
    · obtain ⟨hx', hpipe⟩ := hflight x hx hxs
      obtain ⟨st', hst', hc'⟩ := hi.inflight_state x hx'
      exact ⟨st', by rw [update_noteq hxs, hst'], hc'.trans hpipe.symm⟩
  · have hnd' := ((List.perm_cons_erase hs).append_right w.pipe).nodup_iff.mp hnd
    split_ifs
    · rw [← List.append_assoc, List.nodup_append_comm, List.singleton_append]
      exact hnd'
    · exact (List.nodup_cons.mp hnd').2
  · intro r rq x hr hrx
    obtain ⟨st', hst', hreq, hcan, hfl, hdone⟩ := hi.wrapper_state r rq x hr hrx
    rcases eq_or_ne x s with rfl | hxs
    · rw [hst] at hst'
      cases hst'
      exact ⟨_, update_same _ _ _, hreq, hcan,
        fun _ => hfl (List.mem_append_left _ hs), fun _ => rfl⟩
    · exact ⟨st', by rw [update_noteq hxs, hst'], hreq, hcan,
        fun h => hfl (hflight x h hxs).1, hdone⟩
  · intro x st' hx
    rcases update_eq_some.mp hx with ⟨rfl, h⟩ | ⟨-, hx⟩
    · cases h
      simpa using hi.state_owner x st hst
    · exact hi.state_owner x st' hx
  · exact hi.reqs_fresh
  · exact hi.states_fresh_update (by simp [hst]) _
  · exact hi.req_lt_update fun _ h => by cases h; exact hi.req_lt s st hst
  · exact hi.state_result_update fun _ h => by cases h; simp [storedResult, hzero.2]

/-! ### A delivery -/

/-- Once the oldest pointer `s` leaves the pipe, what is in flight was in
flight before, is not `s`, and is in the pipe exactly when it was. -/
theorem AioInv.inflight_pop {s : Nat} {rest : List Nat} (hp : w.pipe = s :: rest) :
    (s :: (w.pending ++ rest)).Nodup ∧ ∀ x ∈ w.pending ++ rest, x ∈ w.pending ++ w.pipe ∧ x ≠ s ∧
      ∃ st, w.states x = some st ∧ (st.completion.isSome ↔ x ∈ rest) := by
  have hnd : (s :: (w.pending ++ rest)).Nodup := List.nodup_middle.mp (hp ▸ hi.inflight_nodup)
  refine ⟨hnd, fun x hx => ?_⟩
  have hxs : x ≠ s := fun h => (List.nodup_cons.mp hnd).1 (h ▸ hx)
  have hx' : x ∈ w.pending ++ w.pipe := by simp_all
  obtain ⟨st, hst, hc⟩ := hi.inflight_state x hx'
  exact ⟨hx', hxs, st, hst, hc.trans (by simp [hp, hxs])⟩

/-- Delivering a state whose request is live marks that request done. -/
theorem AioInv.deliver_live {s : Nat} {rest : List Nat} {st : AioState} {rq : AioReq}
    (hp : w.pipe = s :: rest) (hst : w.states s = some st) (hcan : st.cancelled = false)
    (hr : w.reqs st.req = some rq) (hrs : rq.state = some s) :
    StepOk .deliver w
      { w with pipe := rest, reqs := update w.reqs st.req (some { rq with status := .done }) } := by
  obtain ⟨hnd, hpop⟩ := hi.inflight_pop hp
  have hsin : s ∈ w.pending ++ w.pipe := by simp [hp]
  obtain ⟨-, -, -, -, hfl, -⟩ := hi.wrapper_state st.req rq s hr hrs
  refine ⟨⟨fun x hx => (hpop x hx).2.2, (List.nodup_cons.mp hnd).2, ?_, ?_,
    hi.reqs_fresh_update (by simp [hr]) _, hi.states_fresh, hi.req_lt, hi.state_result⟩, ?_, ?_⟩
  · intro r rq' x hr' hrx
    rcases update_eq_some.mp hr' with ⟨rfl, h⟩ | ⟨-, hr'⟩
    · -- the request marked done points at its state, which has its completion
      cases h
      rw [hrs] at hrx
      cases hrx
      obtain ⟨st', hst', hc⟩ := hi.inflight_state s hsin
      rw [hst] at hst'
      cases hst'
      exact ⟨st, hst, rfl, hcan, fun h => absurd h (List.nodup_cons.mp hnd).1,
        fun _ => hc.mpr (by simp [hp])⟩
    · obtain ⟨st', hst', hreq, hcan', hfl', hdone'⟩ := hi.wrapper_state r rq' x hr' hrx
      exact ⟨st', hst', hreq, hcan', fun h => hfl' (hpop x h).1, hdone'⟩
  · intro x st' hx
    rcases hi.state_owner x st' hx with ⟨rq', hr', hrx⟩ | ⟨hr', hcan'⟩
    · by_cases hrr : st'.req = st.req
      · rw [hrr, hr] at hr'
        cases hr'
        exact .inl ⟨{ rq with status := .done }, by rw [hrr]; exact update_same _ _ _, hrx⟩
      · exact .inl ⟨rq', (update_noteq hrr _ _).trans hr', hrx⟩
    · have hrr : st'.req ≠ st.req := fun h => by rw [h, hr] at hr'; cases hr'
      exact .inr ⟨(update_noteq hrr _ _).trans hr', hcan'⟩
  · intro r rq' hr' hd
    rcases update_eq_some.mp hr' with ⟨rfl, -⟩ | ⟨-, hr'⟩
    · exact ⟨rq, hr, .inr ⟨rfl, hfl hsin, s, rest, hp, hrs⟩⟩
    · exact ⟨rq', hr', .inl hd⟩
  · -- the request marked done owns `s`, which is in flight
    exact keepsDoomed_of fun x st' hx hf _ => ⟨⟨st', hx, rfl⟩, fun h => hf (hpop x h).1,
      .inl (update_noteq (fun h => hf (hi.eq_of_owner hx h hr hrs ▸ hsin)) _ _)⟩

/-- Delivering a cancelled state frees it. -/
theorem AioInv.deliver_cancelled {s : Nat} {rest : List Nat} {st : AioState}
    (hp : w.pipe = s :: rest) (hst : w.states s = some st) (hcan : st.cancelled = true) :
    StepOk .deliver w { w with pipe := rest, states := update w.states s none } := by
  obtain ⟨hnd, hpop⟩ := hi.inflight_pop hp
  have hsin : s ∈ w.pending ++ w.pipe := by simp [hp]
  refine ⟨⟨?_, (List.nodup_cons.mp hnd).2, ?_,
    fun x st' hx => hi.state_owner x st' (update_none_of_eq_some hx).2, hi.reqs_fresh,
    hi.states_fresh_update (by simp [hst]) none, hi.req_lt_update (by simp),
    hi.state_result_update (by simp)⟩, marksOwnDone_of_reqs_eq rfl, keepsDoomed_of fun x st' hx hf _ => ?_⟩
  · intro x hx
    obtain ⟨-, hxs, st', hst', hc'⟩ := hpop x hx
    exact ⟨st', (update_noteq hxs _ _).trans hst', hc'⟩
  · intro r rq x hr hrx
    obtain ⟨st', hst', hreq, hcan', hfl, hdone⟩ := hi.wrapper_state r rq x hr hrx
    -- a live wrapper points at an uncancelled state, so not at `s`
    have hxs : x ≠ s := fun h => by
      rw [h, hst] at hst'
      cases hst'
      rw [hcan] at hcan'
      cases hcan'
    exact ⟨st', (update_noteq hxs _ _).trans hst', hreq, hcan', fun h => hfl (hpop x h).1, hdone⟩
  · have hxs : x ≠ s := fun h => hf (h ▸ hsin)
    exact ⟨⟨st', (update_noteq hxs _ _).trans hx, rfl⟩, fun h => hf (hpop x h).1, .inl rfl⟩

theorem AioInv.deliver (hp : w.pipe ≠ []) :
    ∃ w', aioTeventFdDone w = .ok w' ∧ StepOk .deliver w w' := by
  obtain ⟨s, rest, hpipe⟩ := List.exists_cons_of_ne_nil hp
  have hsin : s ∈ w.pending ++ w.pipe := by simp [hpipe]
  obtain ⟨st, hst, -⟩ := hi.inflight_state s hsin
  cases hcan : st.cancelled
  · obtain ⟨rq, hr, hrs⟩ : ∃ rq, w.reqs st.req = some rq ∧ rq.state = some s := by
      simpa [hcan] using hi.state_owner s st hst
    obtain ⟨-, -, -, -, hfl, -⟩ := hi.wrapper_state st.req rq s hr hrs
    exact ⟨_, aioTeventFdDone_of_live hpipe hst hcan hr (hfl hsin),
      hi.deliver_live hpipe hst hcan hr hrs⟩
  · exact ⟨_, aioTeventFdDone_of_cancelled hpipe hst hcan, hi.deliver_cancelled hpipe hst hcan⟩

/-! ### Receiving and destroying -/

theorem AioInv.recv {r : Nat} (hr : (w.reqs r).isSome) :
    ∃ w', (vfsGlusterRecv r w).map Prod.snd = .ok w' ∧ StepOk (.recv r) w w' := by
  obtain ⟨rq, hrq⟩ := Option.isSome_iff_exists.mp hr
  by_cases hfree : ∃ s, rq.state = some s ∧ rq.status = .done
  · obtain ⟨s, hrs, hdone⟩ := hfree
    obtain ⟨st, hst, hreq, -, hfl, -⟩ := hi.wrapper_state r rq s hrq hrs
    have hsout : s ∉ w.pending ++ w.pipe := fun h => by simp [hfl h] at hdone
    -- no state but `s` names `r`
    have hrr : ∀ x st', w.states x = some st' → x ≠ s → st'.req ≠ r :=
      fun x st' hx hxs h => hxs (hi.eq_of_owner hx h hrq hrs)
    refine ⟨_, by rw [vfsGlusterRecv_of_done hrq hrs hdone hst]; rfl, ⟨?_,
      marksOwnDone_of_update rfl fun _ _ _ => ⟨rq, hrq, hdone⟩, ?_⟩⟩
    · constructor <;> dsimp only
      · intro x hx
        obtain ⟨st', hst', hc'⟩ := hi.inflight_state x hx
        have hxs : x ≠ s := fun h => hsout (h ▸ hx)
        exact ⟨st', (update_noteq hxs _ _).trans hst', hc'⟩
      · exact hi.inflight_nodup
      · intro r' rq' x hr' hrx
        rcases update_eq_some.mp hr' with ⟨rfl, h⟩ | ⟨hr'r, hr'⟩
        · cases h
          cases hrx
        · obtain ⟨st', hst', hreq', hrest⟩ := hi.wrapper_state r' rq' x hr' hrx
          have hxs : x ≠ s := fun h => hr'r (hi.wrapper_inj hrq hrs hr' (h ▸ hrx))
          exact ⟨st', by rw [update_noteq hxs, hst'], hreq', hrest⟩
      · intro x st' hx
        obtain ⟨hxs, hx⟩ := update_none_of_eq_some hx
        simpa only [update_noteq (hrr x st' hx hxs)] using hi.state_owner x st' hx
      · exact hi.reqs_fresh_update hr _
      · exact hi.states_fresh_update (by simp [hst]) none
      · exact hi.req_lt_update (by simp)
      · exact hi.state_result_update (by simp)
    · refine keepsDoomed_of fun x st' hx hf hnd => ?_
      -- a doomed state's request is not the done request `r`
      have hxr : st'.req ≠ r := fun h => hnd rq (h ▸ hrq) hdone
      have hxs : x ≠ s := fun h => by
        subst h
        rw [hst] at hx
        cases hx
        exact hxr hreq
      exact ⟨⟨st', (update_noteq hxs _ _).trans hx, rfl⟩, hf, .inl (update_noteq hxr _ _)⟩
  · have h : rq.state = none ∨ rq.status ≠ .done := by
      cases hrs : rq.state with
      | none => exact .inl rfl
      | some s => exact .inr fun hd => hfree ⟨s, hrs, hd⟩
    obtain ⟨res, -, hres⟩ := vfsGlusterRecv_of_not_done hrq h
    exact ⟨w, by rw [hres]; rfl, StepOk.of_eq hi⟩

theorem AioInv.destroy {r : Nat} (hr : (w.reqs r).isSome) :
    ∃ w', aioWrapperDestructor r w = .ok w' ∧ StepOk (.destroy r) w w' := by
  obtain ⟨rq, hrq⟩ := Option.isSome_iff_exists.mp hr
  have hgone : ∀ w' : AioWorld, w'.reqs = update w.reqs r none → MarksOwnDone (.destroy r) w w' :=
    fun w' hw' => marksOwnDone_of_update hw' fun _ h _ => by cases h
  cases hrs : rq.state with
  | none =>
    refine ⟨_, aioWrapperDestructor_of_none hrq hrs, ⟨?_, hgone _ rfl,
      keepsDoomed_of fun x st' hx hf _ => ⟨⟨st', hx, rfl⟩, hf, update_none_eq_or _ _ _⟩⟩⟩
    constructor <;> dsimp only
    · exact hi.inflight_state
    · exact hi.inflight_nodup
    · intro r' rq' x hr' hrx
      exact hi.wrapper_state r' rq' x (update_none_of_eq_some hr').2 hrx
    · intro x st' hx
      have hrr : st'.req ≠ r := fun h => by simpa [hrs] using hi.wrapper_of_owner hx h hrq
      simpa only [update_noteq hrr] using hi.state_owner x st' hx
    · exact hi.reqs_fresh_update hr none
    · exact hi.states_fresh
    · exact hi.req_lt
    · exact hi.state_result
  | some s =>
    obtain ⟨st, hst, hreq, -, -, -⟩ := hi.wrapper_state r rq s hrq hrs
    refine ⟨_, aioWrapperDestructor_of_state hrq hrs hst, ⟨?_, hgone _ rfl,
      keepsDoomed_of fun x st' hx hf _ => ⟨?_, hf, update_none_eq_or _ _ _⟩⟩⟩
    swap
    · rcases eq_or_ne x s with rfl | hxs
      · rw [hst] at hx
        cases hx
        exact ⟨_, update_same _ _ _, rfl⟩
      · exact ⟨st', (update_noteq hxs _ _).trans hx, rfl⟩
    constructor <;> dsimp only
    · intro x hx
      obtain ⟨st', hst', hc'⟩ := hi.inflight_state x hx
      rcases eq_or_ne x s with rfl | hxs
      · rw [hst] at hst'
        cases hst'
        exact ⟨_, update_same _ _ _, hc'⟩
      · exact ⟨st', (update_noteq hxs _ _).trans hst', hc'⟩
    · exact hi.inflight_nodup
    · intro r' rq' x hr' hrx
      obtain ⟨hr'r, hr'⟩ := update_none_of_eq_some hr'
      obtain ⟨st', hst', hreq', hrest⟩ := hi.wrapper_state r' rq' x hr' hrx
      have hxs : x ≠ s := fun h => hr'r (hi.wrapper_inj hrq hrs hr' (h ▸ hrx))
      exact ⟨st', by rw [update_noteq hxs, hst'], hreq', hrest⟩
    · intro x st' hx
      rcases update_eq_some.mp hx with ⟨rfl, h⟩ | ⟨hxs, hx⟩
      · cases h
        exact .inr ⟨by rw [hreq, update_same], rfl⟩
      · have hrr : st'.req ≠ r := fun h => hxs (hi.eq_of_owner hx h hrq hrs)
        simpa only [update_noteq hrr] using hi.state_owner x st' hx
    · exact hi.reqs_fresh_update hr none
    · exact hi.states_fresh_update (by simp [hst]) _
    · exact hi.req_lt_update fun _ h => by cases h; exact hi.req_lt s st hst
    · exact hi.state_result_update fun _ h => by cases h; exact hi.state_result s st hst

/-- Every enabled event runs without a fault and guarantees `StepOk`. -/
theorem AioInv.step {e : AioEvent} (he : e.Enabled w) :
    ∃ w', aioStep w e = .ok w' ∧ StepOk e w w' := by
  cases e with
  | send op env => exact ⟨_, rfl, hi.send op env⟩
  | complete s ret errno written => exact hi.complete he ret errno written
  | deliver => exact hi.deliver he
  | recv r => exact hi.recv he
  | destroy r => exact hi.destroy he

theorem AioInv.next {w' : AioWorld} (h : AioNext w w') : ∃ e, StepOk e w w' := by
  obtain ⟨e, he, hok⟩ := h
  obtain ⟨w'', hw'', hstep⟩ := hi.step he
  rw [hok] at hw''
  cases hw''
  exact ⟨e, hstep⟩

end Events

theorem AioInv.of_reachable {w : AioWorld} (hw : AioReachable w) : AioInv w := by
  induction hw with
  | refl => exact aioInv_init
  | tail _ hnext hi =>
    obtain ⟨e, hstep⟩ := hi.next hnext
    exact hstep.inv

/-- In every reachable world: no enabled event faults (no step reads, writes
or frees a freed state, and `tevent_req_done` is never called on a destroyed
or finished request); a request is done after a step only if it was before or
the step delivered that request's own state; `vfs_gluster_recv` past its
checks returns what `aio_glusterfs_done` received for the request's own state
(-1 and `errno` for a failed operation, `ret` and 0 otherwise); and a pending
state has received no completion yet, so that completion is its only one. -/
theorem aio_handshake_safe (w : AioWorld) (hw : AioReachable w) :
    (∀ e : AioEvent, e.Enabled w → ∃ w', aioStep w e = .ok w') ∧
    (∀ e w', e.Enabled w → aioStep w e = .ok w' → MarksOwnDone e w w') ∧
    (∀ r rq s, w.reqs r = some rq → rq.state = some s → rq.status = .done →
      ∃ st ret errno, w.states s = some st ∧ st.req = r ∧ st.completion = some (ret, errno) ∧
        (vfsGlusterRecv r w).map Prod.fst =
          .ok ⟨if ret < 0 then -1 else ret, some (if ret < 0 then errno else 0)⟩) ∧
    (∀ s ∈ w.pending, ∃ st, w.states s = some st ∧ st.completion = none) := by
  have hi := AioInv.of_reachable hw
  refine ⟨fun e he => ?_, fun e w' he hok => ?_, fun r rq s hr hrs hdone => ?_,
    fun s hs => hi.pending_completion_none hs⟩
  · obtain ⟨w', hw', -⟩ := hi.step he
    exact ⟨w', hw'⟩
  · obtain ⟨w'', hw'', hstep⟩ := hi.step he
    rw [hok] at hw''
    cases hw''
    exact hstep.marks_own_done
  · obtain ⟨st, hst, hreq, -, -, hcomp⟩ := hi.wrapper_state r rq s hr hrs
    obtain ⟨⟨ret, errno⟩, hc⟩ := Option.isSome_iff_exists.mp (hcomp hdone)
    -- what recv copies out is what the completion stored
    have hres : st.ret = (if ret < 0 then -1 else ret) ∧ st.error = if ret < 0 then errno else 0 := by
      simpa [hc, storedResult] using hi.state_result s st hst
    exact ⟨st, ret, errno, hst, hreq, hc,
      by rw [vfsGlusterRecv_of_done hr hrs hdone hst, hres.1, hres.2]; rfl⟩

/-- A read of 4096 bytes that is sent, completed and delivered: its request is
done, and `vfs_gluster_recv` returns what the completion of its state received. -/
theorem aio_handshake_safe_delivered :
    ∃ w, aioRun AioWorld.init
        [.send .pread ⟨true, true, true, true, 0, 0, 0⟩, .complete 0 4096 0 true, .deliver] = some w ∧
      ∃ st ret errno, w.states 0 = some st ∧ st.req = 0 ∧ st.completion = some (ret, errno) ∧
        (vfsGlusterRecv 0 w).map Prod.fst =
          .ok ⟨if ret < 0 then -1 else ret, some (if ret < 0 then errno else 0)⟩ :=
  ⟨_, rfl, (aio_handshake_safe _ (@AioReachable.of_aioRun AioWorld.init _
    [.send .pread ⟨true, true, true, true, 0, 0, 0⟩, .complete 0 4096 0 true, .deliver] .refl rfl)).2.2.1
    0 _ 0 rfl rfl rfl⟩

end GlusterVfs
