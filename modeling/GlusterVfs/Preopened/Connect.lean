import GlusterVfs.Volfile.Servers
import GlusterVfs.Preopened.Registry

/-!
# `vfs_gluster_connect` and `vfs_gluster_disconnect`

A tree connect to a share of this module runs `vfs_gluster_connect` on a new
vfs handle: it reuses the registered volume of `(volume, connectpath)` if
there is one, and otherwise creates one with `glfs_new`, configures it, runs
`glfs_init` and registers it. Any failing step jumps to `done`, which calls
`glfs_fini` on the volume it created. The disconnect of a handle drops the
handle's reference with `glfs_clear_preopened`.

Everything the library and `talloc` answer is a parameter (`ConnectEnv`);
the share's `glusterfs:` options are `GlusterParams`. The process holds the
registry, the volumes created so far and the log of `glfs_fini` calls
(`GlusterProc`); the smbd side holds the connected handles
(`GlusterWorld`). `GlusterStep` is one connect of a handle that is not
connected, or one disconnect of a connected handle.

`connect_cases` says once everything a connect can do, and `connect_fini`
what it can do without any assumption on the registry: a failed connect
leaves the registry alone and finalises only the volume it created.
-/

namespace GlusterVfs

/-- `DEFAULT_VOLFILE_SERVER`. -/
def defaultVolfileServer : String := "localhost"

/-- The share's `glusterfs:` parameters as `lp_parm_*` reads them, `none`
where the parameter is not set. -/
structure GlusterParams where
  logfile : Option String
  loglevel : Option Int
  volfileServer : Option String
  volume : Option String

/-- What `talloc` and the gluster library answer during one connect. -/
structure ConnectEnv where
  /-- `talloc_new(NULL)` succeeds. -/
  tmpCtx : Bool
  /-- `glfs_new(volume)` returns a volume. -/
  glfsNew : String → Bool
  /-- The library during `vfs_gluster_set_volfile_servers`. -/
  volfile : VolfileEnv
  /-- `glfs_set_xlator_option(fs, "*-md-cache", "cache-posix-acl", "true")`. -/
  xlatorCachePosixAcl : Int
  /-- `glfs_set_xlator_option(fs, "*-snapview-client", "snapdir-entry-path", connectpath)`. -/
  xlatorSnapdirEntryPath : String → Int
  /-- `glfs_set_logging(fs, logfile, loglevel)`. -/
  glfsSetLogging : Option String → Int → Int
  /-- `glfs_init(fs)`. -/
  glfsInit : Int
  /-- The allocations of `glfs_set_preopened`. -/
  preopenedAlloc : PreopenedAlloc

/-- The module's process-wide state: the registry, the next volume
`glfs_new` hands out, and the volumes passed to `glfs_fini` so far. -/
structure GlusterProc where
  preopened : List GlfsPreopened
  nextFs : Nat
  finied : List Glfs

/-- What a connect returns: `ret`, the `handle->data` it set on success, and
the process state after it. -/
structure ConnectResult where
  ret : Int
  data : Option Glfs
  proc : GlusterProc

/-- `if (ret < 0) goto done;` -/
def connectCheck (ret : Int) : Except Int Unit :=
  if ret < 0 then .error ret else .ok ()

/-- The set-up of a new volume `fs`, from `vfs_gluster_set_volfile_servers`
to `glfs_set_preopened`: the first negative return, or the registry with the
volume added. -/
def glusterSetup (params : GlusterParams) (env : ConnectEnv)
    (volfileServers volume connectpath : String) (fs : Glfs)
    (preopened : List GlfsPreopened) : Except Int (List GlfsPreopened) := do
  connectCheck (vfsGlusterSetVolfileServers env.volfile volfileServers).1
  connectCheck env.xlatorCachePosixAcl
  connectCheck (env.xlatorSnapdirEntryPath connectpath)
  connectCheck (env.glfsSetLogging params.logfile (params.loglevel.getD (-1)))
  connectCheck env.glfsInit
  match glfsSetPreopened env.preopenedAlloc volume connectpath fs preopened with
  | some preopened => pure preopened
  | none => throw (-1)

/-- `vfs_gluster_connect(handle, service, user)` for a share whose connect
path is `connectpath`. -/
def vfsGlusterConnect (params : GlusterParams) (env : ConnectEnv)
    (service connectpath : String) (proc : GlusterProc) : ConnectResult :=
  if env.tmpCtx = false then ⟨-1, none, proc⟩
  else
    let volfileServers := params.volfileServer.getD defaultVolfileServer
    let volume := params.volume.getD service
    match glfsFindPreopened volume connectpath proc.preopened with
    | (some fs, preopened) => ⟨0, some fs, { proc with preopened }⟩
    | (none, _) =>
      if env.glfsNew volume = false then ⟨-1, none, proc⟩
      else
        let fs : Glfs := ⟨proc.nextFs⟩
        match glusterSetup params env volfileServers volume connectpath fs proc.preopened with
        | .ok preopened => ⟨0, some fs, ⟨preopened, proc.nextFs + 1, proc.finied⟩⟩
        | .error ret => ⟨ret, none, ⟨proc.preopened, proc.nextFs + 1, proc.finied ++ [fs]⟩⟩

/-- `vfs_gluster_disconnect(handle)` of a handle whose `handle->data` is
`data`. -/
def vfsGlusterDisconnect (data : Glfs) (proc : GlusterProc) : GlusterProc :=
  let (preopened, finied) := glfsClearPreopened data proc.preopened
  { proc with preopened, finied := proc.finied ++ finied }

/-! ## What one connect can do -/

/-- A check passes its continuation's outcome through, or stops with its own
negative return. -/
theorem connectCheck_bind_or {α : Type} {ret : Int} {f : Unit → Except Int α} {x : α}
    (h : f () = .ok x ∨ ∃ r < 0, f () = .error r) :
    connectCheck ret >>= f = .ok x ∨ ∃ r < 0, connectCheck ret >>= f = .error r := by
  unfold connectCheck
  split
  · exact .inr ⟨ret, ‹_›, rfl⟩
  · exact h

/-- The set-up of a new volume registers it, or stops at a negative return. -/
theorem glusterSetup_cases (params : GlusterParams) (env : ConnectEnv)
    (volfileServers volume connectpath : String) (fs : Glfs) (preopened : List GlfsPreopened) :
    glusterSetup params env volfileServers volume connectpath fs preopened =
        .ok (⟨volume, connectpath, fs, 1⟩ :: preopened) ∨
      ∃ ret < 0, glusterSetup params env volfileServers volume connectpath fs preopened =
        .error ret := by
  refine connectCheck_bind_or <| connectCheck_bind_or <| connectCheck_bind_or <|
    connectCheck_bind_or <| connectCheck_bind_or ?_
  unfold glfsSetPreopened
  split_ifs
  · exact .inl rfl
  · exact .inr ⟨-1, by decide, rfl⟩

/-- Everything one connect can do to a registry with distinct keys and
volumes. -/
theorem connect_cases (params : GlusterParams) (env : ConnectEnv) (service connectpath : String)
    (proc : GlusterProc) (hkeys : (proc.preopened.map GlfsPreopened.key).Nodup)
    (hfs : (proc.preopened.map (·.fs)).Nodup) :
    let key := (params.volume.getD service, connectpath)
    let r := vfsGlusterConnect params env service connectpath proc
    -- no volume at all: nothing changes
    (r.ret < 0 ∧ r.data = none ∧ r.proc = proc) ∨
    -- the registered volume of the key, with one reference more
    (∃ e ∈ proc.preopened, e.key = key ∧
      r = ⟨0, some e.fs, { proc with preopened := addRef e.fs 1 proc.preopened }⟩) ∨
    -- a new volume whose set-up failed, finalised at once
    ((∀ e ∈ proc.preopened, e.key ≠ key) ∧ r.ret < 0 ∧ r.data = none ∧
      r.proc = ⟨proc.preopened, proc.nextFs + 1, proc.finied ++ [⟨proc.nextFs⟩]⟩) ∨
    -- a new volume, registered with one reference
    ((∀ e ∈ proc.preopened, e.key ≠ key) ∧
      r = ⟨0, some ⟨proc.nextFs⟩,
        ⟨⟨key.1, key.2, ⟨proc.nextFs⟩, 1⟩ :: proc.preopened, proc.nextFs + 1, proc.finied⟩⟩) := by
  intro key r
  by_cases hctx : env.tmpCtx = false
  · exact .inl (by simp [r, vfsGlusterConnect, hctx])
  by_cases hfound : ∃ e ∈ proc.preopened, e.key = key
  · obtain ⟨e, he, hkey⟩ := hfound
    refine .inr (.inl ⟨e, he, hkey, ?_⟩)
    simp [r, vfsGlusterConnect, hctx, glfsFindPreopened_of_mem hkeys hfs he hkey]
  · have hnot : ∀ e ∈ proc.preopened, e.key ≠ key := fun e he hk => hfound ⟨e, he, hk⟩
    by_cases hnew : env.glfsNew key.1 = false
    · exact .inl (by simp [r, key, vfsGlusterConnect, hctx, glfsFindPreopened_of_forall_not hnot,
        hnew])
    rcases glusterSetup_cases params env (params.volfileServer.getD defaultVolfileServer) key.1
        key.2 ⟨proc.nextFs⟩ proc.preopened with hok | ⟨ret, hret, herr⟩
    · refine .inr (.inr (.inr ⟨hnot, ?_⟩))
      simp [r, key, vfsGlusterConnect, hctx, glfsFindPreopened_of_forall_not hnot, hnew] at hok ⊢
      simp [hok]
    · refine .inr (.inr (.inl ⟨hnot, ?_⟩))
      simp [r, key, vfsGlusterConnect, hctx, glfsFindPreopened_of_forall_not hnot, hnew] at herr ⊢
      simp [herr, hret]

/-- A connect that fails sets no `handle->data` and leaves the registry as it
was; the only `glfs_fini` a connect makes is on failure, of the volume it has
just created. -/
theorem connect_fini (params : GlusterParams) (env : ConnectEnv) (service connectpath : String)
    (proc : GlusterProc) :
    let r := vfsGlusterConnect params env service connectpath proc
    (r.ret < 0 → r.data = none ∧ r.proc.preopened = proc.preopened) ∧
    (r.proc.finied = proc.finied ∨
      r.ret < 0 ∧ r.proc.nextFs = proc.nextFs + 1 ∧ r.proc.finied = proc.finied ++ [⟨proc.nextFs⟩]) := by
  intro r
  simp only [r, vfsGlusterConnect]
  split
  · simp
  split
  · simp
  split
  · simp
  split
  · simp
  · rename_i ret hset
    rcases glusterSetup_cases params env _ _ _ _ _ with hok | ⟨ret', hret', herr⟩
    · rw [hok] at hset
      cases hset
    · rw [herr] at hset
      cases hset
      simp [hret']

end GlusterVfs
