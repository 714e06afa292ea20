import Mathlib

/-!
# The glfd of an open file

`vfs_gluster_open` keeps the `glfs_fd_t *` the library returns in an fsp
extension (`VFS_ADD_FSP_EXTENSION`). Every operation on an open file fetches
it back with `vfs_gluster_fetch_glfd` and fails with `-1` when the fsp has
none; `vfs_gluster_close` removes the extension and passes the glfd to
`glfs_close`.

The library's fds are allocations told apart by a counter (`Glfd`). A
`glfs_*` call on a glfd already passed to `glfs_close` is a fault
(`FspFault.fdClosed`); so is the write `*p_tmp = glfd` when
`VFS_ADD_FSP_EXTENSION` returns `NULL` (`FspFault.extNull`), which the source
does not check. What the library answers is a parameter of each function.

The operations on an open file share one shape, `withGlfd`: fetch, `-1` (or
`false`, or no result) without a call, otherwise one `glfs_f*` call on the
glfd. Each keeps its definition under its own name as `withGlfd` applied to
its failure value and its call. `vfs_gluster_fallocate` checks its mode
between the fetch and the call and keeps its own body. The lock query of
`vfs_gluster_lock` and `vfs_gluster_getlock` make the same library call and
differ only in whose lock counts (`vfsGlusterLock_getlk_eq`).
-/

namespace GlusterVfs

open Function (update)

/-- A `glfs_fd_t *`: an fd the library handed out, told apart by its
allocation. -/
structure Glfd where
  id : Nat
deriving DecidableEq, Repr

/-- `O_CREAT` (Linux). -/
def oCreat : Nat := 0o100

/-- `O_DIRECTORY` (Linux). -/
def oDirectory : Nat := 0o200000

/-- The library call `vfs_gluster_open` makes to get its glfd. -/
inductive OpenCall
  | glfsOpendir
  | glfsCreat
  | glfsOpen
deriving DecidableEq, Repr

/-- The branch of `vfs_gluster_open` on its flags. -/
def openCall (flags : Nat) : OpenCall :=
  if flags &&& oDirectory ≠ 0 then .glfsOpendir
  else if flags &&& oCreat ≠ 0 then .glfsCreat
  else .glfsOpen

/-- What the library and `VFS_ADD_FSP_EXTENSION` answer during one open. -/
structure OpenEnv where
  /-- The call returns a glfd (and not `NULL`). -/
  glfsOpen : OpenCall → Bool
  /-- `VFS_ADD_FSP_EXTENSION` allocates the extension. -/
  extAlloc : Bool

/-- The fsp extensions of this module and the library's fds. -/
structure FspWorld where
  /-- `VFS_FETCH_FSP_EXTENSION(handle, fsp)`: `none` when the fsp has no
  extension, otherwise the `glfs_fd_t *` it holds (`none` for `NULL`). -/
  ext : Nat → Option (Option Glfd)
  /-- The next glfd the library hands out. -/
  nextFd : Nat
  /-- The glfds passed to `glfs_close` so far. -/
  closed : List Glfd

/-- No fsp has an extension, no glfd has been handed out. -/
def FspWorld.init : FspWorld := ⟨fun _ => none, 0, []⟩

/-- What goes wrong with an fsp's glfd. -/
inductive FspFault
  /-- `*p_tmp = glfd` through the `NULL` of a failed `VFS_ADD_FSP_EXTENSION`. -/
  | extNull
  /-- A `glfs_*` call on a glfd already passed to `glfs_close`. -/
  | fdClosed (glfd : Glfd)
deriving DecidableEq, Repr

/-- A library call on `glfd`: a fault once the glfd has been closed. -/
def glfsUse (glfd : Glfd) (w : FspWorld) : Except FspFault Unit :=
  if glfd ∈ w.closed then .error (.fdClosed glfd) else .ok ()

/-- `vfs_gluster_open(handle, smb_fname, fsp, flags, mode)` on an fsp without
an extension: `13371337` with the glfd in a new extension, or `-1` when the
library returns `NULL`. -/
def vfsGlusterOpen (env : OpenEnv) (flags : Nat) (fsp : Nat) (w : FspWorld) :
    Except FspFault (Int × FspWorld) :=
  if env.glfsOpen (openCall flags) = false then .ok (-1, w)
  else
    let glfd : Glfd := ⟨w.nextFd⟩
    if env.extAlloc = false then .error .extNull
    else .ok (13371337, { w with ext := update w.ext fsp (some (some glfd)), nextFd := w.nextFd + 1 })

/-- `vfs_gluster_fetch_glfd(handle, fsp)`: `NULL` without an extension or
with a `NULL` in it. -/
def vfsGlusterFetchGlfd (fsp : Nat) (w : FspWorld) : Option Glfd :=
  match w.ext fsp with
  | none => none
  | some none => none
  | some (some glfd) => some glfd

/-- `vfs_gluster_close(handle, fsp)`, given what `glfs_close` returns: `-1`
without a glfd; otherwise the extension is removed and the glfd closed. -/
def vfsGlusterClose (glfsClose : Int) (fsp : Nat) (w : FspWorld) :
    Except FspFault (Int × FspWorld) :=
  match vfsGlusterFetchGlfd fsp w with
  | none => .ok (-1, w)
  | some glfd => do
    glfsUse glfd w
    pure (glfsClose, { w with ext := update w.ext fsp none, closed := w.closed ++ [glfd] })

/-- The shape of an operation on an open file: `fail` when
`vfs_gluster_fetch_glfd` returns `NULL`, otherwise `call` on the glfd. -/
def withGlfd {α : Type} (fail : α) (call : Glfd → α) (fsp : Nat) (w : FspWorld) :
    Except FspFault α :=
  match vfsGlusterFetchGlfd fsp w with
  | none => .ok fail
  | some glfd => do
    glfsUse glfd w
    pure (call glfd)

/-! ## The operations on an open file -/

/-- `vfs_gluster_pread`; `glfsPread glfd` is what `glfs_pread` returns. -/
def vfsGlusterPread (glfsPread : Glfd → Int) (fsp : Nat) (w : FspWorld) : Except FspFault Int :=
  withGlfd (-1) glfsPread fsp w

/-- `vfs_gluster_pwrite`. -/
def vfsGlusterPwrite (glfsPwrite : Glfd → Int) (fsp : Nat) (w : FspWorld) :
    Except FspFault Int :=
  withGlfd (-1) glfsPwrite fsp w

/-- `vfs_gluster_lseek`. -/
def vfsGlusterLseek (glfsLseek : Glfd → Int) (fsp : Nat) (w : FspWorld) : Except FspFault Int :=
  withGlfd (-1) glfsLseek fsp w

/-- `vfs_gluster_fstat`: the return of `glfs_fstat`, and the stat it fills
`sbuf` from (`smb_stat_ex_from_stat`) when that return is `0`. -/
def vfsGlusterFstat {σ : Type} (glfsFstat : Glfd → Int × σ) (fsp : Nat) (w : FspWorld) :
    Except FspFault (Int × Option σ) :=
  withGlfd (-1, none)
    (fun glfd => let (ret, st) := glfsFstat glfd; (ret, if ret = 0 then some st else none)) fsp w

/-- `vfs_gluster_fchmod`. -/
def vfsGlusterFchmod (glfsFchmod : Glfd → Int) (fsp : Nat) (w : FspWorld) :
    Except FspFault Int :=
  withGlfd (-1) glfsFchmod fsp w

/-- `vfs_gluster_fchown`. -/
def vfsGlusterFchown (glfsFchown : Glfd → Int) (fsp : Nat) (w : FspWorld) :
    Except FspFault Int :=
  withGlfd (-1) glfsFchown fsp w

/-- `vfs_gluster_ftruncate`. -/
def vfsGlusterFtruncate (glfsFtruncate : Glfd → Int) (fsp : Nat) (w : FspWorld) :
    Except FspFault Int :=
  withGlfd (-1) glfsFtruncate fsp w

/-- `vfs_gluster_fgetxattr`. -/
def vfsGlusterFgetxattr (glfsFgetxattr : Glfd → Int) (fsp : Nat) (w : FspWorld) :
    Except FspFault Int :=
  withGlfd (-1) glfsFgetxattr fsp w

/-- `vfs_gluster_flistxattr`. -/
def vfsGlusterFlistxattr (glfsFlistxattr : Glfd → Int) (fsp : Nat) (w : FspWorld) :
    Except FspFault Int :=
  withGlfd (-1) glfsFlistxattr fsp w

/-- `vfs_gluster_fremovexattr`. -/
def vfsGlusterFremovexattr (glfsFremovexattr : Glfd → Int) (fsp : Nat) (w : FspWorld) :
    Except FspFault Int :=
  withGlfd (-1) glfsFremovexattr fsp w

/-- `vfs_gluster_fsetxattr`. -/
def vfsGlusterFsetxattr (glfsFsetxattr : Glfd → Int) (fsp : Nat) (w : FspWorld) :
    Except FspFault Int :=
  withGlfd (-1) glfsFsetxattr fsp w

/-- `F_GETLK` (Linux). -/
def fGetlk : Int := 5

/-- `F_UNLCK` (Linux). -/
def fUnlck : Int := 2

/-- `SEEK_SET`. -/
def seekSet : Int := 0

/-- A `struct flock`: `l_type`, `l_whence`, `l_start`, `l_len`, `l_pid`. -/
structure Flock where
  type : Int
  whence : Int
  start : Int
  len : Int
  pid : Int
deriving DecidableEq, Repr

/-- `vfs_gluster_lock(handle, fsp, op, offset, count, type)`, given the
process id and what `glfs_posix_lock` returns and leaves in the flock: a
query (`F_GETLK`) is true when someone else holds a lock on the range; any
other operation is true when `glfs_posix_lock` succeeds. -/
def vfsGlusterLock (getpid : Int) (glfsPosixLock : Glfd → Int → Flock → Int × Flock)
    (op offset count type : Int) (fsp : Nat) (w : FspWorld) : Except FspFault Bool :=
  withGlfd false (fun glfd =>
    let (ret, flock) := glfsPosixLock glfd op ⟨type, seekSet, offset, count, 0⟩
    if op = fGetlk then
      decide (ret ≠ -1 ∧ flock.type ≠ fUnlck ∧ flock.pid ≠ 0 ∧ flock.pid ≠ getpid)
    else decide (ret ≠ -1)) fsp w

/-- `vfs_gluster_getlock(handle, fsp, poffset, pcount, ptype, ppid)`: the
flock `glfs_posix_lock(F_GETLK)` leaves, copied out to the four pointers, or
`none` for `false`, which leaves them alone. -/
def vfsGlusterGetlock (glfsPosixLock : Glfd → Int → Flock → Int × Flock)
    (poffset pcount ptype : Int) (fsp : Nat) (w : FspWorld) : Except FspFault (Option Flock) :=
  withGlfd none (fun glfd =>
    let (ret, flock) := glfsPosixLock glfd fGetlk ⟨ptype, seekSet, poffset, pcount, 0⟩
    if ret = -1 then none else some flock) fsp w

/-- `VFS_FALLOCATE_FL_KEEP_SIZE`. -/
def vfsFallocateFlKeepSize : UInt32 := 0x0001

/-- `VFS_FALLOCATE_FL_PUNCH_HOLE`. -/
def vfsFallocateFlPunchHole : UInt32 := 0x0002

/-- `ENOTSUP` (Linux). -/
def enotsup : Int := 95

/-- `vfs_gluster_fallocate(handle, fsp, mode, offset, len)` as built with
`HAVE_GFAPI_VER_6`, given what `glfs_discard` and `glfs_fallocate` (for its
`keep_size`) return: the return and the `errno` the function sets itself.
A mode with a bit other than the two flags fails with `ENOTSUP` before any
call; a punched hole is a `glfs_discard`. -/
def vfsGlusterFallocate (glfsDiscard : Glfd → Int) (glfsFallocate : Glfd → UInt32 → Int)
    (mode : UInt32) (fsp : Nat) (w : FspWorld) : Except FspFault (Int × Option Int) :=
  match vfsGlusterFetchGlfd fsp w with
  | none => .ok (-1, none)
  | some glfd =>
    let keepSize := mode &&& vfsFallocateFlKeepSize
    let punchHole := mode &&& vfsFallocateFlPunchHole
    let mode := mode &&& ~~~(vfsFallocateFlKeepSize ||| vfsFallocateFlPunchHole)
    if mode ≠ 0 then .ok (-1, some enotsup)
    else do
      glfsUse glfd w
      if punchHole ≠ 0 then pure (glfsDiscard glfd, none)
      else pure (glfsFallocate glfd keepSize, none)

/-! ## One open and one close -/

section Spec

variable {w : FspWorld} {fsp : Nat}

@[simp] theorem vfsGlusterFetchGlfd_of_ext {glfd : Glfd} (h : w.ext fsp = some (some glfd)) :
    vfsGlusterFetchGlfd fsp w = some glfd := by
  simp [vfsGlusterFetchGlfd, h]

/-- An open either leaves everything alone, or hands out the next glfd into
the fsp's extension, or writes through `NULL`. -/
theorem vfsGlusterOpen_cases (env : OpenEnv) (flags : Nat) :
    vfsGlusterOpen env flags fsp w = .ok (-1, w) ∨
      vfsGlusterOpen env flags fsp w =
        .ok (13371337, { w with ext := update w.ext fsp (some (some ⟨w.nextFd⟩)),
                                nextFd := w.nextFd + 1 }) ∨
      vfsGlusterOpen env flags fsp w = .error .extNull := by
  unfold vfsGlusterOpen
  split_ifs
  · exact .inl rfl
  · exact .inr (.inr rfl)
  · exact .inr (.inl rfl)

/-- A close of an fsp with an open glfd removes the extension and closes the
glfd once. -/
theorem vfsGlusterClose_of_ext (glfsClose : Int) {glfd : Glfd}
    (h : w.ext fsp = some (some glfd)) (hc : glfd ∉ w.closed) :
    vfsGlusterClose glfsClose fsp w =
      .ok (glfsClose, { w with ext := update w.ext fsp none, closed := w.closed ++ [glfd] }) := by
  simp [vfsGlusterClose, h, glfsUse, hc]

theorem vfsGlusterClose_of_fetch_none (glfsClose : Int) (h : vfsGlusterFetchGlfd fsp w = none) :
    vfsGlusterClose glfsClose fsp w = .ok (-1, w) := by
  simp [vfsGlusterClose, h]

/-- An open touches no other fsp's extension. -/
theorem vfsGlusterOpen_ext_of_ne {env : OpenEnv} {flags : Nat} {ret : Int} {w' : FspWorld}
    (h : vfsGlusterOpen env flags fsp w = .ok (ret, w')) {f : Nat} (hf : f ≠ fsp) :
    w'.ext f = w.ext f := by
  rcases @vfsGlusterOpen_cases w fsp env flags with h' | h' | h' <;> rw [h'] at h <;> cases h
  · rfl
  · exact Function.update_noteq hf _ _

/-- A close only takes extensions away. -/
theorem vfsGlusterClose_ext_of_eq_some {glfsClose ret : Int} {w' : FspWorld}
    (h : vfsGlusterClose glfsClose fsp w = .ok (ret, w')) {f : Nat} {x : Option Glfd}
    (hx : w'.ext f = some x) : w.ext f = some x := by
  unfold vfsGlusterClose glfsUse at h
  split at h
  · cases h
    exact hx
  · split at h
    · cases h
    · cases h
      rcases eq_or_ne f fsp with rfl | hf
      · simp at hx
      · simpa [Function.update_noteq hf] using hx

theorem withGlfd_of_fetch_none {α : Type} (fail : α) (call : Glfd → α)
    (h : vfsGlusterFetchGlfd fsp w = none) : withGlfd fail call fsp w = .ok fail := by
  simp [withGlfd, h]

theorem withGlfd_of_open {α : Type} (fail : α) (call : Glfd → α) {glfd : Glfd}
    (h : vfsGlusterFetchGlfd fsp w = some glfd) (hc : glfd ∉ w.closed) :
    withGlfd fail call fsp w = .ok (call glfd) := by
  simp [withGlfd, h, glfsUse, hc]

/-- What a caller computes from an operation's result is the operation with
that computation applied to its failure value and to its call. -/
theorem withGlfd_map {α β : Type} (g : α → β) (fail : α) (call : Glfd → α) :
    (withGlfd fail call fsp w).map g = withGlfd (g fail) (g ∘ call) fsp w := by
  unfold withGlfd glfsUse
  split
  · rfl
  · split <;> rfl

end Spec

/-! ## The mode check of `vfs_gluster_fallocate` -/

/-- The bits 2 to 31 of a 32-bit value are clear exactly when it is below 4. -/
theorem land_high_eq_zero_iff {x : Nat} (hx : x < 2 ^ 32) : x &&& (2 ^ 32 - 4) = 0 ↔ x < 4 := by
  have hbit : ∀ i, (2 ^ 32 - 4 : Nat).testBit i = decide (2 ≤ i ∧ i < 32) := by
    intro i
    rcases lt_or_le i 32 with h | h
    · have key : ∀ i < 32, (2 ^ 32 - 4 : Nat).testBit i = decide (2 ≤ i ∧ i < 32) := by decide
      exact key i h
    · rw [Nat.testBit_eq_false_of_lt (lt_of_lt_of_le (by norm_num) (Nat.pow_le_pow_right two_pos h))]
      exact (decide_eq_false (by omega)).symm
  constructor
  · intro h
    have := Nat.lt_pow_two_of_testBit (n := 2) x fun i hi => by
      rcases lt_or_le i 32 with h32 | h32
      · have := congrArg (Nat.testBit · i) h
        simp only [Nat.testBit_and, hbit, Nat.zero_testBit] at this
        simpa [hi, h32] using this
      · exact Nat.testBit_eq_false_of_lt (lt_of_lt_of_le hx (Nat.pow_le_pow_right two_pos h32))
    simpa using this
  · intro h
    apply Nat.zero_of_testBit_eq_false
    intro i
    rw [Nat.testBit_and, hbit]
    rcases lt_or_le i 2 with h2 | h2
    · simp [h2]
    · rw [Nat.testBit_eq_false_of_lt (lt_of_lt_of_le h (by simpa using Nat.pow_le_pow_right two_pos h2))]
      rfl

theorem uint32_eq_zero_iff {a : UInt32} : a = 0 ↔ a.toNat = 0 :=
  ⟨fun h => h ▸ rfl, fun h => UInt32.toNat.inj h⟩

/-- No bit but the two flags is set exactly when the mode is below 4. -/
theorem fallocate_mode_eq_zero_iff (mode : UInt32) :
    mode &&& ~~~(vfsFallocateFlKeepSize ||| vfsFallocateFlPunchHole) = 0 ↔ mode.toNat < 4 :=
  uint32_eq_zero_iff.trans (land_high_eq_zero_iff mode.toNat_lt)

theorem fallocate_punch_ne_zero_iff {mode : UInt32} (h : mode.toNat < 4) :
    mode &&& vfsFallocateFlPunchHole ≠ 0 ↔ 2 ≤ mode.toNat := by
  rw [Ne, uint32_eq_zero_iff]
  show ¬mode.toNat &&& 2 = 0 ↔ _
  generalize mode.toNat = x at *
  interval_cases x <;> decide

/-- On an open glfd, `vfs_gluster_fallocate` rejects every mode from 4 on
with `ENOTSUP` and no call, discards for a punched hole (with or without
`KEEP_SIZE`), and otherwise calls `glfs_fallocate` with `keep_size`. -/
theorem vfsGlusterFallocate_of_open {w : FspWorld} {fsp : Nat} (glfsDiscard : Glfd → Int)
    (glfsFallocate : Glfd → UInt32 → Int) (mode : UInt32) {glfd : Glfd}
    (h : vfsGlusterFetchGlfd fsp w = some glfd) (hc : glfd ∉ w.closed) :
    vfsGlusterFallocate glfsDiscard glfsFallocate mode fsp w =
      .ok (if 4 ≤ mode.toNat then (-1, some enotsup)
        else if 2 ≤ mode.toNat then (glfsDiscard glfd, none)
        else (glfsFallocate glfd (mode &&& vfsFallocateFlKeepSize), none)) := by
  simp only [vfsGlusterFallocate, h, ne_eq, fallocate_mode_eq_zero_iff, not_lt]
  by_cases h4 : 4 ≤ mode.toNat
  · simp only [h4, if_true]
  · have hp := fallocate_punch_ne_zero_iff (not_le.mp h4)
    simp only [h4, if_false, glfsUse, hc]
    by_cases h2 : 2 ≤ mode.toNat <;> simp [h2, hp]

theorem vfsGlusterFallocate_of_fetch_none {w : FspWorld} {fsp : Nat} (glfsDiscard : Glfd → Int)
    (glfsFallocate : Glfd → UInt32 → Int) (mode : UInt32) (h : vfsGlusterFetchGlfd fsp w = none) :
    vfsGlusterFallocate glfsDiscard glfsFallocate mode fsp w = .ok (-1, none) := by
  simp [vfsGlusterFallocate, h]

/-! ## The two lock queries -/

/-- `vfs_gluster_lock` with `F_GETLK` and `vfs_gluster_getlock` make the same
`glfs_posix_lock` call on the same flock. The query answers "locked by
another" exactly when `vfs_gluster_getlock` reports a lock that is not
`F_UNLCK`, has an owner, and is not this process's; both fail alike without a
glfd or on a closed one. -/
theorem vfsGlusterLock_getlk_eq (getpid : Int)
    (glfsPosixLock : Glfd → Int → Flock → Int × Flock) (offset count type : Int) (fsp : Nat)
    (w : FspWorld) :
    vfsGlusterLock getpid glfsPosixLock fGetlk offset count type fsp w =
      (vfsGlusterGetlock glfsPosixLock offset count type fsp w).map fun r =>
        r.any fun fl => decide (fl.type ≠ fUnlck ∧ fl.pid ≠ 0 ∧ fl.pid ≠ getpid) := by
  rw [vfsGlusterGetlock, withGlfd_map, vfsGlusterLock]
  congr 1
  funext glfd
  dsimp only [Function.comp]
  generalize glfsPosixLock glfd fGetlk ⟨type, seekSet, offset, count, 0⟩ = r
  by_cases hret : r.1 = -1 <;> simp [hret]

end GlusterVfs
