import GlusterVfs.Fsp.Model
import GlusterVfs.Heap

/-!
# The glfd of each fsp over whole runs

Runs of opens of fsps without an extension (any flags, any library answers)
and closes of any fsp, from the world where nothing is open
(`FspReachable`), and the invariant `FspInv` they keep:

* **no `NULL` in an extension** — every extension holds a glfd the library
  handed out;
* **no sharing** — two fsps never hold the same glfd;
* **the `glfs_close` ledger** — a glfd handed out has been closed once if no
  fsp holds it, and never otherwise.

Each step keeps it (`FspInv.openFsp`, `FspInv.closeFsp`), so every reachable
world has it (`FspInv.of_reachable`). From it: every operation on an open
file either fails without a call or calls the library on the fsp's own glfd,
which is open, so none faults; a close never faults and closes a glfd at most
once; and once no fsp is open every glfd handed out has been closed exactly
once (`fsp_glfd_lifecycle`). An open that faults is not a step: the only
fault of `vfs_gluster_open` is the write through a `NULL` extension.
-/

namespace GlusterVfs

open Function (update update_same update_noteq)

/-- One step: an open of an fsp without an extension that does not fault, or
the close of any fsp. -/
inductive FspStep : FspWorld → FspWorld → Prop
  | openFsp {w w' : FspWorld} (env : OpenEnv) (flags fsp : Nat) {ret : Int} :
      w.ext fsp = none → vfsGlusterOpen env flags fsp w = .ok (ret, w') → FspStep w w'
  | closeFsp {w w' : FspWorld} (glfsClose : Int) (fsp : Nat) {ret : Int} :
      vfsGlusterClose glfsClose fsp w = .ok (ret, w') → FspStep w w'

/-- The worlds some run of opens and closes reaches from `FspWorld.init`. -/
def FspReachable (w : FspWorld) : Prop :=
  Relation.ReflTransGen FspStep FspWorld.init w

/-- The invariant of the fsp extensions and the library's fds. -/
structure FspInv (w : FspWorld) : Prop where
  /-- An extension holds a glfd the library handed out, never `NULL`. -/
  ext_some : ∀ fsp x, w.ext fsp = some x → ∃ glfd, x = some glfd ∧ glfd.id < w.nextFd
  /-- No two fsps hold the same glfd. -/
  ext_inj : ∀ f g glfd, w.ext f = some (some glfd) → w.ext g = some (some glfd) → f = g
  /-- A glfd has been closed exactly when it was handed out and no fsp holds
  it. -/
  mem_closed : ∀ glfd, glfd ∈ w.closed ↔ glfd.id < w.nextFd ∧ ∀ fsp, w.ext fsp ≠ some (some glfd)
  /-- No glfd has been closed twice. -/
  closed_nodup : w.closed.Nodup

theorem fspInv_init : FspInv FspWorld.init :=
  ⟨fun _ _ h => (by cases h), fun _ _ _ h => (by cases h), fun _ => by simp [FspWorld.init],
    List.nodup_nil⟩

namespace FspInv

variable {w : FspWorld} (hi : FspInv w)
include hi

/-- The glfd an fsp holds is open. -/
theorem not_closed {fsp : Nat} {glfd : Glfd} (h : w.ext fsp = some (some glfd)) :
    glfd ∉ w.closed :=
  fun hc => ((hi.mem_closed glfd).mp hc).2 fsp h

/-- What `vfs_gluster_fetch_glfd` finds: nothing for an fsp without an
extension, otherwise the fsp's open glfd. -/
theorem fetch (fsp : Nat) :
    (w.ext fsp = none ∧ vfsGlusterFetchGlfd fsp w = none) ∨
      ∃ glfd, w.ext fsp = some (some glfd) ∧ glfd ∉ w.closed ∧
        vfsGlusterFetchGlfd fsp w = some glfd := by
  cases hx : w.ext fsp with
  | none => exact .inl ⟨rfl, by simp [vfsGlusterFetchGlfd, hx]⟩
  | some x =>
    obtain ⟨glfd, rfl, -⟩ := hi.ext_some fsp _ hx
    exact .inr ⟨glfd, rfl, hi.not_closed hx, vfsGlusterFetchGlfd_of_ext hx⟩

/-- An open hands the next glfd to an fsp without an extension. -/
theorem openFsp {fsp : Nat} (hn : w.ext fsp = none) :
    FspInv { w with ext := update w.ext fsp (some (some ⟨w.nextFd⟩)), nextFd := w.nextFd + 1 } := by
  have hfresh : ∀ f, w.ext f ≠ some (some ⟨w.nextFd⟩) := fun f h => by
    obtain ⟨_, hg, hlt⟩ := hi.ext_some f _ h
    cases hg
    exact lt_irrefl _ hlt
  refine ⟨fun f x hx => ?_, fun f g glfd hf hg => ?_, fun glfd => ?_, hi.closed_nodup⟩ <;>
    dsimp only at *
  · rcases update_eq_some.mp hx with ⟨-, hv⟩ | ⟨-, hx⟩
    · cases hv
      exact ⟨_, rfl, Nat.lt_succ_self _⟩
    · obtain ⟨glfd, rfl, hlt⟩ := hi.ext_some f x hx
      exact ⟨glfd, rfl, Nat.lt_succ_of_lt hlt⟩
  · -- only `fsp` holds the new glfd
    rcases update_eq_some.mp hf with ⟨rfl, hv⟩ | ⟨-, hf'⟩ <;>
      rcases update_eq_some.mp hg with ⟨rfl, hv'⟩ | ⟨-, hg'⟩
    · rfl
    · cases hv
      exact absurd hg' (hfresh g)
    · cases hv'
      exact absurd hf' (hfresh f)
    · exact hi.ext_inj f g glfd hf' hg'
  · rw [hi.mem_closed]
    by_cases hg : glfd = ⟨w.nextFd⟩
    · -- the new glfd: not closed before, held now
      subst hg
      exact iff_of_false (fun h => lt_irrefl _ h.1) fun h => h.2 fsp (update_same _ _ _)
    · -- any other glfd: held by the same fsps, and on the same side of `nextFd`
      have hid : glfd.id ≠ w.nextFd := fun h => hg (by cases glfd; simp_all)
      have hv : some (some (⟨w.nextFd⟩ : Glfd)) ≠ some (some glfd) := by simpa using Ne.symm hg
      exact and_congr (by omega) (forall_update_ne_iff hv (by simp [hn])).symm

/-- A close passes the fsp's glfd to `glfs_close` and removes the extension. -/
theorem closeFsp {fsp : Nat} {glfd : Glfd} (h : w.ext fsp = some (some glfd)) :
    FspInv { w with ext := update w.ext fsp none, closed := w.closed ++ [glfd] } := by
  obtain ⟨_, hg, hlt⟩ := hi.ext_some fsp _ h
  cases hg
  refine ⟨fun f x hx => hi.ext_some f x (update_none_of_eq_some hx).2,
    fun f g glfd' hf hg => hi.ext_inj f g glfd' (update_none_of_eq_some hf).2
      (update_none_of_eq_some hg).2, fun glfd' => ?_, ?_⟩ <;> dsimp only
  · rw [List.mem_append, List.mem_singleton, hi.mem_closed]
    by_cases hg : glfd' = glfd
    · -- the closed glfd: held by `fsp` alone before, by no fsp now
      subst hg
      refine iff_of_true (.inr rfl) ⟨hlt, fun f hf => ?_⟩
      obtain ⟨hff, hf⟩ := update_none_of_eq_some hf
      exact hff (hi.ext_inj f fsp glfd' hf h)
    · -- any other glfd: held by the same fsps
      rw [or_iff_left hg]
      exact and_congr Iff.rfl (forall_update_ne_iff (by simp) (by simpa [h] using Ne.symm hg)).symm
  · exact List.nodup_append.mpr ⟨hi.closed_nodup, List.nodup_singleton _,
      List.disjoint_singleton.mpr (hi.not_closed h)⟩

/-- Every step keeps the invariant. -/
theorem step {w' : FspWorld} (hs : FspStep w w') : FspInv w' := by
  cases hs with
  | openFsp env flags fsp hn hopen =>
    rcases @vfsGlusterOpen_cases w fsp env flags with h | h | h <;>
      rw [h] at hopen <;> cases hopen
    · exact hi
    · exact hi.openFsp hn
  | closeFsp glfsClose fsp hclose =>
    rcases hi.fetch fsp with ⟨-, hf⟩ | ⟨glfd, hx, hc, -⟩
    · rw [vfsGlusterClose_of_fetch_none glfsClose hf] at hclose
      cases hclose
      exact hi
    · rw [vfsGlusterClose_of_ext glfsClose hx hc] at hclose
      cases hclose
      exact hi.closeFsp hx

end FspInv

theorem FspInv.of_reachable {w : FspWorld} (hw : FspReachable w) : FspInv w := by
  induction hw with
  | refl => exact fspInv_init
  | tail _ hs ih => exact ih.step hs

/-- Over every run of opens and closes: the invariant holds; every operation
on an open file fails without a call for an fsp without an extension, and
otherwise calls the library on the fsp's own glfd, which is open (so it never
faults); `vfs_gluster_fallocate` does the same after its mode check, which
rejects any flag but `KEEP_SIZE` and `PUNCH_HOLE` with `ENOTSUP`; a close
returns -1 without an extension and otherwise closes the fsp's open glfd and
removes the extension; no glfd is closed twice; and once no fsp is open,
every glfd the library handed out has been closed exactly once. -/
theorem fsp_glfd_lifecycle (w : FspWorld) (hw : FspReachable w) :
    FspInv w ∧
    (∀ {α : Type} (fail : α) (call : Glfd → α) (fsp : Nat),
      (w.ext fsp = none ∧ withGlfd fail call fsp w = .ok fail) ∨
      ∃ glfd, w.ext fsp = some (some glfd) ∧ glfd ∉ w.closed ∧
        withGlfd fail call fsp w = .ok (call glfd)) ∧
    (∀ glfsDiscard glfsFallocate mode fsp,
      (w.ext fsp = none ∧ vfsGlusterFallocate glfsDiscard glfsFallocate mode fsp w = .ok (-1, none)) ∨
      ∃ glfd, w.ext fsp = some (some glfd) ∧ glfd ∉ w.closed ∧
        vfsGlusterFallocate glfsDiscard glfsFallocate mode fsp w =
          .ok (if 4 ≤ mode.toNat then (-1, some enotsup)
            else if 2 ≤ mode.toNat then (glfsDiscard glfd, none)
            else (glfsFallocate glfd (mode &&& vfsFallocateFlKeepSize), none))) ∧
    (∀ glfsClose fsp,
      (w.ext fsp = none ∧ vfsGlusterClose glfsClose fsp w = .ok (-1, w)) ∨
      ∃ glfd, w.ext fsp = some (some glfd) ∧ glfd ∉ w.closed ∧
        vfsGlusterClose glfsClose fsp w =
          .ok (glfsClose, { w with ext := update w.ext fsp none, closed := w.closed ++ [glfd] })) ∧
    (∀ glfd, w.closed.count glfd ≤ 1) ∧
    ((∀ fsp, w.ext fsp = none) → ∀ glfd : Glfd, glfd.id < w.nextFd → w.closed.count glfd = 1) := by
  have hi := FspInv.of_reachable hw
  refine ⟨hi, fun fail call fsp => ?_, fun glfsDiscard glfsFallocate mode fsp => ?_,
    fun glfsClose fsp => ?_, fun glfd => ?_, fun hnone glfd hlt => ?_⟩
  · rcases hi.fetch fsp with ⟨hn, hf⟩ | ⟨glfd, hx, hc, hf⟩
    · exact .inl ⟨hn, withGlfd_of_fetch_none fail call hf⟩
    · exact .inr ⟨glfd, hx, hc, withGlfd_of_open fail call hf hc⟩
  · rcases hi.fetch fsp with ⟨hn, hf⟩ | ⟨glfd, hx, hc, hf⟩
    · exact .inl ⟨hn, vfsGlusterFallocate_of_fetch_none glfsDiscard glfsFallocate mode hf⟩
    · exact .inr ⟨glfd, hx, hc, vfsGlusterFallocate_of_open glfsDiscard glfsFallocate mode hf hc⟩
  · rcases hi.fetch fsp with ⟨hn, hf⟩ | ⟨glfd, hx, hc, -⟩
    · exact .inl ⟨hn, vfsGlusterClose_of_fetch_none glfsClose hf⟩
    · exact .inr ⟨glfd, hx, hc, vfsGlusterClose_of_ext glfsClose hx hc⟩
  · exact List.nodup_iff_count_le_one.mp hi.closed_nodup glfd
  · exact List.count_eq_one_of_mem hi.closed_nodup
      ((hi.mem_closed glfd).mpr ⟨hlt, fun fsp h => by rw [hnone fsp] at h; cases h⟩)

/-- An fsp opened and closed again: its glfd has been closed once. -/
theorem fsp_glfd_lifecycle_open_close :
    ∃ w, FspReachable w ∧ (∀ fsp, w.ext fsp = none) ∧ w.closed.count ⟨0⟩ = 1 := by
  have hw : FspReachable _ :=
    .tail (.tail .refl (.openFsp ⟨fun _ => true, true⟩ 0 0 rfl rfl)) (.closeFsp 0 0 rfl)
  refine ⟨_, hw, ?hnone, (fsp_glfd_lifecycle _ hw).2.2.2.2.2 ?hnone ⟨0⟩ (by decide)⟩
  intro fsp
  by_cases h : fsp = 0 <;> simp [Function.update, FspWorld.init, h]

end GlusterVfs
