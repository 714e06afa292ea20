import Mathlib

/-!
# Calls by path: `get_real_filename`, `getwd` and `ntimes`

`vfs_gluster_get_real_filename` asks the volume for the case-insensitive
match of `name` in `path` through the virtual xattr
`glusterfs.get_real_filename:<name>`. It formats the key into a stack buffer
of `GLUSTER_NAME_MAX + 64` bytes with `snprintf`, lets `glfs_getxattr` write
the value into an uninitialised stack buffer of `GLUSTER_NAME_MAX + 1`
bytes, and copies that buffer out with `talloc_strdup`.

C strings are their bytes before the NUL (`List UInt8`). A stack buffer is a
list of `Option UInt8`, `none` where nothing has been written; `strdupBuf`
reads it byte by byte up to the NUL, and reading a byte nothing wrote, or past
the end, is a fault (`BufFault`).

`getRealFilename_eq` says what the function does for every name and every
library answer: the key is never truncated, and the name found is the value
up to its NUL when the value holds one; without a NUL, `talloc_strdup` reads
bytes `glfs_getxattr` did not write.

`vfs_gluster_getwd` copies the path out of a zeroed buffer with one byte more
than it lets `glfs_getcwd` write, so the copy always ends in bounds
(`getwd_terminated`).

`vfs_gluster_ntimes` keeps the file's time for each null time it is given
and calls `glfs_utimens` only when a time changes (`vfsGlusterNtimes_eq`), so
a second call with the same times on the file the first one set makes no call
(`vfsGlusterNtimes_again`).
-/

namespace GlusterVfs

/-- `GLUSTER_NAME_MAX`. -/
def glusterNameMax : Nat := 255

/-- `ENAMETOOLONG` (Linux). -/
def enametoolong : Int := 36

/-- `ENOATTR` (Linux, `ENODATA`). -/
def enoattr : Int := 61

/-- `ENOENT`. -/
def enoent : Int := 2

/-- `ENOMEM`. -/
def enomem : Int := 12

/-- The bytes of `"glusterfs.get_real_filename:"`. -/
def getRealFilenamePrefix : List UInt8 :=
  "glusterfs.get_real_filename:".toList.map (·.toNat.toUInt8)

/-- What `snprintf(buf, size, ...)` leaves in `buf` for the formatted bytes
`s`: at most `size - 1` of them, then the NUL. -/
def snprintfBuf (size : Nat) (s : List UInt8) : List UInt8 :=
  s.take (size - 1)

/-- An uninitialised stack buffer of `size` bytes. -/
def stackBuf (size : Nat) : List (Option UInt8) :=
  List.replicate size none

/-- Writing `bytes` at the start of a buffer. -/
def bufWrite (buf : List (Option UInt8)) (bytes : List UInt8) : List (Option UInt8) :=
  bytes.map some ++ buf.drop bytes.length

/-- What goes wrong when a string is read out of a stack buffer. -/
inductive BufFault
  /-- A read of a byte nothing has written. -/
  | uninit
  /-- A read past the end of the buffer. -/
  | pastEnd
deriving DecidableEq, Repr

/-- `talloc_strdup` of a buffer: the bytes before the first NUL. -/
def strdupBuf : List (Option UInt8) → Except BufFault (List UInt8)
  | [] => .error .pastEnd
  | none :: _ => .error .uninit
  | some b :: rest => if b = 0 then .ok [] else (strdupBuf rest).map (b :: ·)

/-- What `glfs_getxattr(fs, path, key, value, size)` does: write the value's
bytes into `value`, or return `-1` with an `errno`. -/
inductive GetxattrResult
  | value (bytes : List UInt8)
  | error (errno : Int)
deriving DecidableEq, Repr

/-- What `vfs_gluster_get_real_filename` returns, the `errno` it leaves, and
`*found_name`. -/
structure RealFilenameResult where
  ret : Int
  errno : Option Int
  foundName : Option (List UInt8)
deriving DecidableEq, Repr

/-- `vfs_gluster_get_real_filename(handle, path, name, mem_ctx, found_name)`,
given what `glfs_getxattr` does for a path, key and size, and whether
`talloc_strdup` allocates. -/
def vfsGlusterGetRealFilename (glfsGetxattr : List UInt8 → List UInt8 → Nat → GetxattrResult)
    (tallocOk : Bool) (path name : List UInt8) : Except BufFault RealFilenameResult :=
  if name.length ≥ glusterNameMax then .ok ⟨-1, some enametoolong, none⟩
  else
    let key := snprintfBuf (glusterNameMax + 64) (getRealFilenamePrefix ++ name)
    match glfsGetxattr path key (glusterNameMax + 1) with
    | .error errno => .ok ⟨-1, some (if errno = enoattr then enoent else errno), none⟩
    | .value bytes => do
      let found ← strdupBuf (bufWrite (stackBuf (glusterNameMax + 1)) bytes)
      if tallocOk then pure ⟨0, none, some found⟩ else pure ⟨-1, some enomem, none⟩

/-- `PATH_MAX` (Linux). -/
def pathMax : Nat := 4096

/-- A zeroed heap buffer of `size` bytes (`SMB_CALLOC_ARRAY`). -/
def callocBuf (size : Nat) : List (Option UInt8) :=
  List.replicate size (some 0)

/-- `vfs_gluster_getwd(handle, ctx)`, given whether `SMB_CALLOC_ARRAY` and
the copy in `synthetic_smb_fname` allocate and what `glfs_getcwd(fs, buf,
size)` writes (`none` for `NULL`): the base name of the `smb_filename`, `none`
for `NULL`. -/
def vfsGlusterGetwd (callocOk : Bool) (glfsGetcwd : Nat → Option (List UInt8)) (tallocOk : Bool) :
    Except BufFault (Option (List UInt8)) :=
  if callocOk = false then .ok none
  else
    match glfsGetcwd (pathMax - 1) with
    | none => .ok none
    | some bytes => do
      let path ← strdupBuf (bufWrite (callocBuf pathMax) bytes)
      pure (if tallocOk then some path else none)

/-! ## The key and the copy -/

theorem getRealFilenamePrefix_length : getRealFilenamePrefix.length = 28 := rfl

/-- Every name `vfs_gluster_get_real_filename` accepts fits in `key_buf`
with the prefix and the NUL: `snprintf` never truncates the key. -/
theorem snprintfBuf_key {name : List UInt8} (h : name.length < glusterNameMax) :
    snprintfBuf (glusterNameMax + 64) (getRealFilenamePrefix ++ name) =
      getRealFilenamePrefix ++ name := by
  apply List.take_of_length_le
  rw [List.length_append, getRealFilenamePrefix_length]
  unfold glusterNameMax at *
  omega

/-- `talloc_strdup` of a buffer whose first bytes were written and whose rest
was not: the written bytes up to their NUL; without a NUL among them, a read
of an unwritten byte, or past the end when they fill the buffer. -/
theorem strdupBuf_write (bytes : List UInt8) {rest : List (Option UInt8)}
    (hrest : ∀ x ∈ rest, x = none) :
    strdupBuf (bytes.map some ++ rest) =
      if 0 ∈ bytes then .ok (bytes.takeWhile (· != 0))
      else .error (if rest = [] then .pastEnd else .uninit) := by
  induction bytes with
  | nil =>
    cases rest with
    | nil => rfl
    | cons x rest => rw [hrest x (List.mem_cons_self _ _)]; rfl
  | cons b bytes ih =>
    by_cases hb : b = 0
    · simp [strdupBuf, hb]
    · have hb' : (b != 0) = true := by simpa using hb
      rw [List.map_cons, List.cons_append, strdupBuf, if_neg hb, ih,
        List.takeWhile_cons_of_pos (p := fun x => x != 0) hb']
      by_cases h0 : 0 ∈ bytes
      · rw [if_pos h0, if_pos (List.mem_cons_of_mem _ h0)]
        rfl
      · rw [if_neg h0, if_neg (show 0 ∉ b :: bytes by simpa [Ne.symm hb] using h0)]
        rfl

theorem bufWrite_stackBuf (size : Nat) (bytes : List UInt8) :
    bufWrite (stackBuf size) bytes = bytes.map some ++ List.replicate (size - bytes.length) none := by
  simp [bufWrite, stackBuf, List.drop_replicate]

/-- For every name and every `glfs_getxattr` that writes at most the size it
is given: a name of `GLUSTER_NAME_MAX` bytes or more fails with
`ENAMETOOLONG` before any call; otherwise the library is asked for the key
`glusterfs.get_real_filename:` followed by the whole name; `ENOATTR` becomes
`ENOENT`; a value holding a NUL gives the bytes before it as `*found_name`
(or `ENOMEM`); a value without one makes `talloc_strdup` read `val_buf` past
what `glfs_getxattr` wrote. -/
theorem getRealFilename_eq (glfsGetxattr : List UInt8 → List UInt8 → Nat → GetxattrResult)
    (tallocOk : Bool) (path name : List UInt8)
    (hlib : ∀ key bytes, glfsGetxattr path key (glusterNameMax + 1) = .value bytes →
      bytes.length ≤ glusterNameMax + 1) :
    vfsGlusterGetRealFilename glfsGetxattr tallocOk path name =
      if name.length ≥ glusterNameMax then .ok ⟨-1, some enametoolong, none⟩
      else match glfsGetxattr path (getRealFilenamePrefix ++ name) (glusterNameMax + 1) with
        | .error errno => .ok ⟨-1, some (if errno = enoattr then enoent else errno), none⟩
        | .value bytes =>
          if 0 ∈ bytes then
            .ok (if tallocOk then ⟨0, none, some (bytes.takeWhile (· != 0))⟩
              else ⟨-1, some enomem, none⟩)
          else .error (if bytes.length = glusterNameMax + 1 then .pastEnd else .uninit) := by
  unfold vfsGlusterGetRealFilename
  by_cases hlong : name.length ≥ glusterNameMax
  · rw [if_pos hlong, if_pos hlong]
  rw [if_neg hlong, if_neg hlong, snprintfBuf_key (not_le.mp hlong)]
  dsimp only
  cases hval : glfsGetxattr path (getRealFilenamePrefix ++ name) (glusterNameMax + 1) with
  | error errno => rfl
  | value bytes =>
    have hlen := hlib _ bytes hval
    dsimp only
    rw [bufWrite_stackBuf, strdupBuf_write bytes (fun x hx => (List.mem_replicate.mp hx).2)]
    by_cases h0 : 0 ∈ bytes
    · rw [if_pos h0, if_pos h0]
      cases tallocOk <;> rfl
    · have hfull : List.replicate (glusterNameMax + 1 - bytes.length) (none : Option UInt8) = [] ↔
          bytes.length = glusterNameMax + 1 := by
        rw [List.replicate_eq_nil_iff]
        omega
      rw [if_neg h0, if_neg h0]
      simp only [hfull]
      rfl

/-- A one-byte name whose match the volume returns with its NUL. -/
example :
    vfsGlusterGetRealFilename (fun _ _ _ => .value [65, 0]) true [] [97] =
      .ok ⟨0, none, some [65]⟩ := rfl

/-! ## `vfs_gluster_getwd` -/

/-- A string copied out of a buffer whose first bytes were written and whose
rest is zeroed ends at the first NUL of what was written, or where the
writing stopped. -/
theorem strdupBuf_write_zeroed (bytes : List UInt8) {k : Nat} (hk : 0 < k) :
    strdupBuf (bytes.map some ++ List.replicate k (some 0)) = .ok (bytes.takeWhile (· != 0)) := by
  induction bytes with
  | nil =>
    obtain ⟨k, rfl⟩ := Nat.exists_eq_add_of_lt hk
    rfl
  | cons b bytes ih =>
    by_cases hb : b = 0
    · simp [strdupBuf, hb]
    · have hb' : (b != 0) = true := by simpa using hb
      rw [List.map_cons, List.cons_append, strdupBuf, if_neg hb, ih,
        List.takeWhile_cons_of_pos (p := fun x => x != 0) hb']
      rfl

/-- For every `glfs_getcwd` that writes at most the size it is given,
`vfs_gluster_getwd` never reads past what is written or zeroed: it asks for
`PATH_MAX - 1` bytes of a zeroed `PATH_MAX`-byte buffer, so the copy always
finds a NUL, and the path is the bytes written up to their first NUL. -/
theorem getwd_terminated (callocOk : Bool) (glfsGetcwd : Nat → Option (List UInt8))
    (tallocOk : Bool) (hlib : ∀ bytes, glfsGetcwd (pathMax - 1) = some bytes → bytes.length ≤ pathMax - 1) :
    vfsGlusterGetwd callocOk glfsGetcwd tallocOk =
      .ok (if callocOk then (glfsGetcwd (pathMax - 1)).bind fun bytes =>
        if tallocOk then some (bytes.takeWhile (· != 0)) else none else none) := by
  unfold vfsGlusterGetwd
  cases callocOk
  · rfl
  cases hcwd : glfsGetcwd (pathMax - 1) with
  | none => rfl
  | some bytes =>
    have hlen := hlib bytes hcwd
    have hwrite : bufWrite (callocBuf pathMax) bytes =
        bytes.map some ++ List.replicate (pathMax - bytes.length) (some 0) := by
      simp [bufWrite, callocBuf, List.drop_replicate]
    show (do let path ← strdupBuf (bufWrite (callocBuf pathMax) bytes); _) = _
    rw [hwrite, strdupBuf_write_zeroed bytes (by unfold pathMax at *; omega)]
    rfl

/-- A working directory of `/`. -/
example : vfsGlusterGetwd true (fun _ => some [47]) true = .ok (some [47]) :=
  (getwd_terminated true (fun _ => some [47]) true (fun _ h => by cases h; decide)).trans rfl

/-! ## `vfs_gluster_ntimes` -/

/-- A `struct timespec`. -/
structure Timespec where
  sec : Int
  nsec : Int
deriving DecidableEq, Repr

/-- `vfs_gluster_ntimes(handle, smb_fname, ft)` for a file whose stat holds
`stAtime` and `stMtime`, given `null_timespec` and `timespec_compare` (from
`lib/util`, outside the module) and what `glfs_utimens` returns: the return,
and the times passed to `glfs_utimens`, `none` when it is not called. -/
def vfsGlusterNtimes (nullTimespec : Timespec → Bool) (timespecCompare : Timespec → Timespec → Int)
    (glfsUtimens : Timespec → Timespec → Int) (stAtime stMtime ftAtime ftMtime : Timespec) :
    Int × Option (Timespec × Timespec) :=
  let atime := if nullTimespec ftAtime then stAtime else ftAtime
  let mtime := if nullTimespec ftMtime then stMtime else ftMtime
  if timespecCompare atime stAtime = 0 ∧ timespecCompare mtime stMtime = 0 then (0, none)
  else (glfsUtimens atime mtime, some (atime, mtime))

/-- With a `timespec_compare` that is `0` exactly on equal times: each null
time keeps the file's, and `glfs_utimens` is called, with those times,
exactly when one of them differs from the file's. -/
theorem vfsGlusterNtimes_eq (nullTimespec : Timespec → Bool)
    (timespecCompare : Timespec → Timespec → Int) (glfsUtimens : Timespec → Timespec → Int)
    (hcmp : ∀ a b, timespecCompare a b = 0 ↔ a = b) (stAtime stMtime ftAtime ftMtime : Timespec) :
    let atime := if nullTimespec ftAtime then stAtime else ftAtime
    let mtime := if nullTimespec ftMtime then stMtime else ftMtime
    vfsGlusterNtimes nullTimespec timespecCompare glfsUtimens stAtime stMtime ftAtime ftMtime =
      if atime = stAtime ∧ mtime = stMtime then (0, none)
      else (glfsUtimens atime mtime, some (atime, mtime)) := by
  intro atime mtime
  simp only [vfsGlusterNtimes, hcmp]

/-- A second `vfs_gluster_ntimes` with the same times, on the file as the
first call's `glfs_utimens` left it, makes no call. -/
theorem vfsGlusterNtimes_again (nullTimespec : Timespec → Bool)
    (timespecCompare : Timespec → Timespec → Int) (glfsUtimens : Timespec → Timespec → Int)
    (hcmp : ∀ a b, timespecCompare a b = 0 ↔ a = b) {stAtime stMtime ftAtime ftMtime atime mtime : Timespec}
    (h : (vfsGlusterNtimes nullTimespec timespecCompare glfsUtimens stAtime stMtime ftAtime ftMtime).2 =
      some (atime, mtime)) :
    vfsGlusterNtimes nullTimespec timespecCompare glfsUtimens atime mtime ftAtime ftMtime = (0, none) := by
  rw [vfsGlusterNtimes_eq _ _ _ hcmp] at h ⊢
  by_cases hs : (if nullTimespec ftAtime then stAtime else ftAtime) = stAtime ∧
      (if nullTimespec ftMtime then stMtime else ftMtime) = stMtime
  · rw [if_pos hs] at h
    cases h
  rw [if_neg hs] at h
  obtain ⟨ha, hm⟩ := Prod.mk.inj (Option.some.inj h)
  -- each time is the given one, or the file's, which the first call set
  have kept : ∀ (null : Bool) {st ft t : Timespec}, (if null then st else ft) = t →
      (if null then t else ft) = t := by
    intro null st ft t h
    cases null
    exacts [h, rfl]
  rw [if_pos ⟨kept _ ha, kept _ hm⟩]

/-- A touch of the modification time only (the access time is null): the
second call finds nothing to change. -/
example :
    (vfsGlusterNtimes (fun t => t.sec == 0) (fun a b => if a = b then 0 else 1) (fun _ _ => 0)
        ⟨1, 0⟩ ⟨7, 0⟩ ⟨0, 0⟩ ⟨9, 0⟩).2 = some (⟨1, 0⟩, ⟨9, 0⟩) ∧
      vfsGlusterNtimes (fun t => t.sec == 0) (fun a b => if a = b then 0 else 1) (fun _ _ => 0)
        ⟨1, 0⟩ ⟨9, 0⟩ ⟨0, 0⟩ ⟨9, 0⟩ = (0, none) :=
  ⟨rfl, rfl⟩

end GlusterVfs
