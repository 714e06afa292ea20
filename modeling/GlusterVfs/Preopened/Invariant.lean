import GlusterVfs.Preopened.Connect

/-!
# The registry over whole runs

Runs of connects and disconnects from the empty process (`GlusterReachable`),
and the invariant `RegistryInv` they keep:

* **uniqueness** — no two entries share a key or a volume;
* **counting** — each entry's `ref` is positive and is the number of
  connected handles on its volume;
* **liveness of handles** — a connected handle's volume is registered and was
  never finalised (`RegistryInv.handle_live`);
* **the `glfs_fini` ledger** — a volume has been finalised once if it was
  created and is no longer registered, and never otherwise; so once every
  handle is gone every volume ever created has been finalised exactly once
  (`RegistryInv.quiescent`).

Each kind of step preserves the invariant (`RegistryInv.connect`,
`RegistryInv.disconnect`), hence every reachable state has it
(`registryInv_of_reachable`).
-/

namespace GlusterVfs

/-! ## Runs of connects and disconnects -/

/-- The process state and the connected vfs handles, each with its
`handle->data`. -/
structure GlusterWorld where
  proc : GlusterProc
  handles : List (Nat × Glfs)

/-- No volume, no handle. -/
def GlusterWorld.init : GlusterWorld := ⟨⟨[], 0, []⟩, []⟩

/-- A connect of handle `h`: on success the handle is connected to the
volume it got. -/
def connectStep (h : Nat) (params : GlusterParams) (env : ConnectEnv)
    (service connectpath : String) (w : GlusterWorld) : GlusterWorld :=
  let r := vfsGlusterConnect params env service connectpath w.proc
  ⟨r.proc, match r.data with
    | some fs => (h, fs) :: w.handles
    | none => w.handles⟩

/-- A disconnect of the connected handle `(h, fs)`. -/
def disconnectStep (h : Nat) (fs : Glfs) (w : GlusterWorld) : GlusterWorld :=
  ⟨vfsGlusterDisconnect fs w.proc, w.handles.erase (h, fs)⟩

/-- A connect keeps every connected handle. -/
theorem mem_connectStep_handles {h : Nat} {params : GlusterParams} {env : ConnectEnv}
    {service connectpath : String} {w : GlusterWorld} {hd : Nat × Glfs} (hd_mem : hd ∈ w.handles) :
    hd ∈ (connectStep h params env service connectpath w).handles := by
  dsimp only [connectStep]
  split
  · exact List.mem_cons_of_mem _ hd_mem
  · exact hd_mem

/-- One step: a connect on a handle that is not connected, with any
parameters and any library behaviour, or the disconnect of a connected
handle. -/
inductive GlusterStep : GlusterWorld → GlusterWorld → Prop
  | connect {w : GlusterWorld} (h : Nat) (params : GlusterParams) (env : ConnectEnv)
      (service connectpath : String) :
      h ∉ w.handles.map Prod.fst →
      GlusterStep w (connectStep h params env service connectpath w)
  | disconnect {w : GlusterWorld} {h : Nat} {fs : Glfs} :
      (h, fs) ∈ w.handles → GlusterStep w (disconnectStep h fs w)

/-- The states some run of steps reaches from `GlusterWorld.init`. -/
inductive GlusterReachable : GlusterWorld → Prop
  | init : GlusterReachable GlusterWorld.init
  | step {w w' : GlusterWorld} : GlusterReachable w → GlusterStep w w' → GlusterReachable w'

/-- The references a handle list holds on `fs`. -/
def refCount (handles : List (Nat × Glfs)) (fs : Glfs) : Nat :=
  handles.countP fun hd => hd.2 = fs

@[simp] theorem refCount_nil (fs : Glfs) : refCount [] fs = 0 := rfl

@[simp] theorem refCount_cons (hd : Nat × Glfs) (handles : List (Nat × Glfs)) (fs : Glfs) :
    refCount (hd :: handles) fs = refCount handles fs + if hd.2 = fs then 1 else 0 := by
  simp [refCount, List.countP_cons]

theorem refCount_erase {hd : Nat × Glfs} {handles : List (Nat × Glfs)} (hmem : hd ∈ handles)
    (fs : Glfs) :
    refCount (handles.erase hd) fs + (if hd.2 = fs then 1 else 0) = refCount handles fs := by
  induction handles with
  | nil => cases hmem
  | cons b rest ih =>
    by_cases hb : b = hd
    · subst hb
      simp
    · rw [List.erase_cons_tail (by simpa using hb), refCount_cons, refCount_cons,
        ← ih (List.mem_of_ne_of_mem (Ne.symm hb) hmem)]
      omega

/-- The registry invariant: distinct keys and volumes; each entry's count is
positive and is the number of connected handles on its volume; every
connected handle's volume is registered; and the `glfs_fini` ledger: a volume
has been finalised once if it was created and is no longer registered, and
never otherwise. -/
structure RegistryInv (w : GlusterWorld) : Prop where
  keys_nodup : (w.proc.preopened.map GlfsPreopened.key).Nodup
  fs_nodup : (w.proc.preopened.map (·.fs)).Nodup
  ref_pos : ∀ e ∈ w.proc.preopened, 1 ≤ e.ref
  ref_eq : ∀ e ∈ w.proc.preopened, e.ref = refCount w.handles e.fs
  handle_mem : ∀ hd ∈ w.handles, hd.2 ∈ w.proc.preopened.map (·.fs)
  handles_nodup : (w.handles.map Prod.fst).Nodup
  fs_lt : ∀ e ∈ w.proc.preopened, e.fs.id < w.proc.nextFs
  finied_count : ∀ fs, w.proc.finied.count fs =
    if fs ∈ w.proc.preopened.map (·.fs) ∨ w.proc.nextFs ≤ fs.id then 0 else 1

theorem registryInv_init : RegistryInv GlusterWorld.init :=
  ⟨List.nodup_nil, List.nodup_nil, by simp [GlusterWorld.init], by simp [GlusterWorld.init],
    by simp [GlusterWorld.init], List.nodup_nil, by simp [GlusterWorld.init],
    by simp [GlusterWorld.init]⟩

namespace RegistryInv

variable {w : GlusterWorld}

theorem fresh_not_mem (hi : RegistryInv w) : (⟨w.proc.nextFs⟩ : Glfs) ∉ w.proc.preopened.map (·.fs) := by
  intro hmem
  obtain ⟨e, he, hfs⟩ := List.mem_map.mp hmem
  have := hi.fs_lt e he
  rw [hfs] at this
  exact Nat.lt_irrefl _ this

theorem refCount_fresh (hi : RegistryInv w) : refCount w.handles ⟨w.proc.nextFs⟩ = 0 := by
  rw [refCount, List.countP_eq_zero]
  intro hd hmem hfs
  have hfs' : hd.2 = ⟨w.proc.nextFs⟩ := of_decide_eq_true hfs
  exact hi.fresh_not_mem (hfs' ▸ hi.handle_mem hd hmem)

/-- A connect to a registered volume: one more reference and one more
handle on it. -/
theorem addRef_connect (hi : RegistryInv w) {e : GlfsPreopened} (he : e ∈ w.proc.preopened)
    {h : Nat} (hh : h ∉ w.handles.map Prod.fst) :
    RegistryInv ⟨{ w.proc with preopened := addRef e.fs 1 w.proc.preopened }, (h, e.fs) :: w.handles⟩ where
  keys_nodup := by simpa using hi.keys_nodup
  fs_nodup := by simpa using hi.fs_nodup
  ref_pos := by
    intro x hx
    obtain ⟨y, hy, rfl⟩ := mem_addRef.mp hx
    have := hi.ref_pos y hy
    split
    · show 1 ≤ y.ref + 1
      omega
    · exact this
  ref_eq := by
    intro x hx
    obtain ⟨y, hy, rfl⟩ := mem_addRef.mp hx
    have := hi.ref_eq y hy
    by_cases hye : y.fs = e.fs
    · simp [hye, this, eq_comm]
    · simp [hye, this, Ne.symm hye]
  handle_mem := by
    intro hd hmem
    rcases List.mem_cons.mp hmem with rfl | hmem
    · simpa only [addRef_map_fs] using List.mem_map_of_mem (·.fs) he
    · simpa using hi.handle_mem hd hmem
  handles_nodup := by simpa [hh] using hi.handles_nodup
  fs_lt := by
    intro x hx
    obtain ⟨y, hy, rfl⟩ := mem_addRef.mp hx
    split <;> exact hi.fs_lt y hy
  finied_count := by simpa only [addRef_map_fs] using hi.finied_count

/-- Moving `nextFs` past a new volume leaves every other volume on the same
side of it. -/
theorem le_id_iff_succ_le {fs : Glfs} {n : Nat} (h : fs ≠ ⟨n⟩) : n ≤ fs.id ↔ n + 1 ≤ fs.id := by
  have : fs.id ≠ n := fun hid => h (by cases fs; simp_all)
  omega

/-- A connect whose new volume failed its set-up: created and finalised. -/
theorem fini_fresh (hi : RegistryInv w) :
    RegistryInv ⟨⟨w.proc.preopened, w.proc.nextFs + 1, w.proc.finied ++ [⟨w.proc.nextFs⟩]⟩,
      w.handles⟩ where
  keys_nodup := hi.keys_nodup
  fs_nodup := hi.fs_nodup
  ref_pos := hi.ref_pos
  ref_eq := hi.ref_eq
  handle_mem := hi.handle_mem
  handles_nodup := hi.handles_nodup
  fs_lt := fun e he => Nat.lt_succ_of_lt (hi.fs_lt e he)
  finied_count := by
    intro fs
    have hcount := hi.finied_count fs
    rcases eq_or_ne fs ⟨w.proc.nextFs⟩ with rfl | hf
    · simp [List.count_append, hcount, hi.fresh_not_mem]
    · simp only [List.count_append, hcount, le_id_iff_succ_le hf, List.count_singleton, beq_iff_eq,
        Ne.symm hf, reduceIte, add_zero]

/-- A connect that registered a new volume under a new key. -/
theorem register (hi : RegistryInv w) {volume connectpath : String}
    (hnot : ∀ e ∈ w.proc.preopened, e.key ≠ (volume, connectpath)) {h : Nat}
    (hh : h ∉ w.handles.map Prod.fst) :
    RegistryInv ⟨⟨⟨volume, connectpath, ⟨w.proc.nextFs⟩, 1⟩ :: w.proc.preopened,
      w.proc.nextFs + 1, w.proc.finied⟩, (h, ⟨w.proc.nextFs⟩) :: w.handles⟩ where
  keys_nodup := List.nodup_cons.mpr ⟨fun hm => by
      obtain ⟨e, he, hk⟩ := List.mem_map.mp hm
      exact hnot e he hk, hi.keys_nodup⟩
  fs_nodup := List.nodup_cons.mpr ⟨hi.fresh_not_mem, hi.fs_nodup⟩
  ref_pos := by
    intro e he
    rcases List.mem_cons.mp he with rfl | he
    · exact le_refl _
    · exact hi.ref_pos e he
  ref_eq := by
    intro e he
    rcases List.mem_cons.mp he with rfl | he
    · simp [hi.refCount_fresh]
    · have hne : e.fs ≠ ⟨w.proc.nextFs⟩ := fun h' =>
        hi.fresh_not_mem (h' ▸ List.mem_map_of_mem (·.fs) he)
      simp [hi.ref_eq e he, Ne.symm hne]
  handle_mem := by
    intro hd hmem
    rcases List.mem_cons.mp hmem with rfl | hmem
    · exact List.mem_cons_self _ _
    · exact List.mem_cons_of_mem _ (hi.handle_mem hd hmem)
  handles_nodup := by simpa [hh] using hi.handles_nodup
  fs_lt := by
    intro e he
    rcases List.mem_cons.mp he with rfl | he
    · exact Nat.lt_succ_self _
    · exact Nat.lt_succ_of_lt (hi.fs_lt e he)
  finied_count := by
    intro fs
    have hcount := hi.finied_count fs
    rcases eq_or_ne fs ⟨w.proc.nextFs⟩ with rfl | hf
    · rw [hcount, if_pos (.inr le_rfl), if_pos (.inl (List.mem_cons_self _ _))]
    · simp only [hcount, le_id_iff_succ_le hf, List.map_cons, List.mem_cons, hf, false_or]

/-- The disconnect of a connected handle: its volume's entry loses one
reference, and is unlinked and finalised when that was the last. -/
theorem disconnect_eq (hi : RegistryInv w) {h : Nat} {fs : Glfs} (hmem : (h, fs) ∈ w.handles) :
    ∃ e ∈ w.proc.preopened, e.fs = fs ∧
      vfsGlusterDisconnect fs w.proc =
        if e.ref - 1 ≠ 0 then { w.proc with preopened := addRef fs (-1) w.proc.preopened }
        else { w.proc with preopened := w.proc.preopened.filter (·.fs ≠ fs),
                           finied := w.proc.finied ++ [fs] } := by
  obtain ⟨e, he, rfl⟩ := List.mem_map.mp (hi.handle_mem _ hmem)
  refine ⟨e, he, rfl, ?_⟩
  rw [vfsGlusterDisconnect, glfsClearPreopened_of_mem hi.fs_nodup he]
  by_cases hlast : e.ref - 1 ≠ 0 <;> simp [hlast]

theorem handles_nodup_erase (hi : RegistryInv w) (hd : Nat × Glfs) :
    ((w.handles.erase hd).map Prod.fst).Nodup :=
  hi.handles_nodup.sublist ((List.erase_sublist _ _).map _)

/-- A disconnect that leaves a reference: the entry stays with one less. -/
theorem dropRef (hi : RegistryInv w) {h : Nat} {e : GlfsPreopened} (he : e ∈ w.proc.preopened)
    (hmem : (h, e.fs) ∈ w.handles) (hleft : e.ref - 1 ≠ 0) :
    RegistryInv ⟨{ w.proc with preopened := addRef e.fs (-1) w.proc.preopened },
      w.handles.erase (h, e.fs)⟩ where
  keys_nodup := by simpa using hi.keys_nodup
  fs_nodup := by simpa using hi.fs_nodup
  ref_pos := by
    intro x hx
    obtain ⟨y, hy, rfl⟩ := mem_addRef.mp hx
    split
    · -- the entry of the volume counts the handles on it, as `e` does
      rename_i hyfs
      have hy_ref := hi.ref_eq y hy
      have he_ref := hi.ref_eq e he
      have he_pos := hi.ref_pos e he
      rw [hyfs] at hy_ref
      show 1 ≤ y.ref + -1
      omega
    · exact hi.ref_pos y hy
  ref_eq := by
    intro x hx
    obtain ⟨y, hy, rfl⟩ := mem_addRef.mp hx
    have hy_ref := hi.ref_eq y hy
    have hcount := refCount_erase hmem y.fs
    split
    · rename_i hyfs
      simp only [hyfs, ↓reduceIte] at hcount hy_ref ⊢
      omega
    · rename_i hyfs
      simp only [Ne.symm hyfs, ↓reduceIte, add_zero] at hcount
      rw [hy_ref, hcount]
  handle_mem := fun hd hd_mem => by
    simpa only [addRef_map_fs] using hi.handle_mem hd (List.mem_of_mem_erase hd_mem)
  handles_nodup := hi.handles_nodup_erase _
  fs_lt := by
    intro x hx
    obtain ⟨y, hy, rfl⟩ := mem_addRef.mp hx
    split <;> exact hi.fs_lt y hy
  finied_count := by simpa only [addRef_map_fs] using hi.finied_count

/-- A disconnect that drops the last reference: the entry goes, and its
volume is finalised. -/
theorem unlink (hi : RegistryInv w) {h : Nat} {e : GlfsPreopened} (he : e ∈ w.proc.preopened)
    (hmem : (h, e.fs) ∈ w.handles) (hlast : ¬e.ref - 1 ≠ 0) :
    RegistryInv ⟨{ w.proc with preopened := w.proc.preopened.filter (·.fs ≠ e.fs),
                               finied := w.proc.finied ++ [e.fs] },
      w.handles.erase (h, e.fs)⟩ := by
  have herase := refCount_erase hmem
  have hzero : refCount (w.handles.erase (h, e.fs)) e.fs = 0 := by
    have := herase e.fs
    have := hi.ref_eq e he
    simp only [↓reduceIte] at *
    omega
  have hgone : ∀ hd ∈ w.handles.erase (h, e.fs), hd.2 ≠ e.fs := fun hd hd_mem hfs =>
    absurd hzero (List.countP_pos_iff.mpr ⟨hd, hd_mem, decide_eq_true hfs⟩).ne'
  refine ⟨hi.keys_nodup.sublist ((List.filter_sublist _).map _),
    hi.fs_nodup.sublist ((List.filter_sublist _).map _),
    fun x hx => hi.ref_pos x (List.mem_of_mem_filter hx), ?_, ?_, hi.handles_nodup_erase _,
    fun x hx => hi.fs_lt x (List.mem_of_mem_filter hx), ?_⟩
  · intro x hx
    have hxfs : x.fs ≠ e.fs := by simpa using (List.mem_filter.mp hx).2
    have hcount := herase x.fs
    simp only [Ne.symm hxfs, ↓reduceIte, add_zero] at hcount
    rw [hi.ref_eq x (List.mem_of_mem_filter hx), hcount]
  · intro hd hd_mem
    obtain ⟨y, hy, hyfs⟩ := List.mem_map.mp (hi.handle_mem hd (List.mem_of_mem_erase hd_mem))
    exact List.mem_map.mpr ⟨y, List.mem_filter.mpr ⟨hy, by simpa [hyfs] using hgone hd hd_mem⟩,
      hyfs⟩
  · intro g
    have hcount := hi.finied_count g
    rcases eq_or_ne g e.fs with rfl | hg
    · -- the volume leaves the registry and enters the ledger once
      rw [List.count_append, hcount, if_pos (.inl (List.mem_map_of_mem (·.fs) he)),
        if_neg (not_or.mpr ⟨not_mem_map_fs_filter e.fs w.proc.preopened,
          Nat.not_le.mpr (hi.fs_lt e he)⟩)]
      simp
    · have hsingle : [e.fs].count g = 0 :=
        List.count_eq_zero_of_not_mem (fun hm => hg (List.mem_singleton.mp hm))
      rw [List.count_append, hcount]
      simp only [mem_map_fs_filter _ hg, hsingle, add_zero]

theorem disconnect (hi : RegistryInv w) {h : Nat} {fs : Glfs} (hmem : (h, fs) ∈ w.handles) :
    RegistryInv (disconnectStep h fs w) := by
  obtain ⟨e, he, rfl, hdis⟩ := hi.disconnect_eq hmem
  simp only [disconnectStep, hdis]
  split
  · exact hi.dropRef he hmem ‹_›
  · exact hi.unlink he hmem ‹_›

theorem connect (hi : RegistryInv w) {h : Nat} (hh : h ∉ w.handles.map Prod.fst)
    (params : GlusterParams) (env : ConnectEnv) (service connectpath : String) :
    RegistryInv (connectStep h params env service connectpath w) := by
  rcases connect_cases params env service connectpath w.proc hi.keys_nodup hi.fs_nodup with
    ⟨-, hdata, hproc⟩ | ⟨e, he, -, hr⟩ | ⟨hnot, -, hdata, hproc⟩ | ⟨hnot, hr⟩
  · have hw : connectStep h params env service connectpath w = w := by
      cases w
      simp [connectStep, hdata, hproc]
    rwa [hw]
  · simpa [connectStep, hr] using hi.addRef_connect he hh
  · simpa [connectStep, hdata, hproc] using hi.fini_fresh
  · simpa [connectStep, hr] using hi.register hnot hh

/-- A connect that succeeds leaves `handle->data` on the registered volume of
its key: the one it found, or the one it has just registered. -/
theorem connect_data (hi : RegistryInv w) (params : GlusterParams) (env : ConnectEnv)
    (service connectpath : String) :
    let r := vfsGlusterConnect params env service connectpath w.proc
    0 ≤ r.ret → ∃ e ∈ r.proc.preopened,
      e.key = (params.volume.getD service, connectpath) ∧ r.data = some e.fs := by
  dsimp only
  intro hret
  rcases connect_cases params env service connectpath w.proc hi.keys_nodup hi.fs_nodup with
    ⟨hneg, -⟩ | ⟨e, he, hkey, hr⟩ | ⟨-, hneg, -⟩ | ⟨-, hr⟩
  · exact absurd hret (not_le.mpr hneg)
  · -- the entry found, with one reference more
    rw [hr]
    exact ⟨{ e with ref := e.ref + 1 }, mem_addRef.mpr ⟨e, he, if_pos rfl⟩, hkey, rfl⟩
  · exact absurd hret (not_le.mpr hneg)
  · rw [hr]
    exact ⟨_, List.mem_cons_self _ _, rfl, rfl⟩

theorem step (hi : RegistryInv w) {w' : GlusterWorld} (hs : GlusterStep w w') : RegistryInv w' := by
  cases hs with
  | connect h params env service connectpath hh => exact hi.connect hh params env service connectpath
  | disconnect hmem => exact hi.disconnect hmem

/-- A connected handle's volume is registered and was never finalised. -/
theorem handle_live (hi : RegistryInv w) {hd : Nat × Glfs} (hmem : hd ∈ w.handles) :
    hd.2 ∈ w.proc.preopened.map (·.fs) ∧ hd.2 ∉ w.proc.finied := by
  have hreg := hi.handle_mem hd hmem
  refine ⟨hreg, fun hfin => ?_⟩
  have hcount := hi.finied_count hd.2
  rw [if_pos (.inl hreg)] at hcount
  exact absurd hcount (List.count_pos_iff.mpr hfin).ne'

/-- With no handle connected, nothing is registered and every volume ever
created has been finalised exactly once. -/
theorem quiescent (hi : RegistryInv w) (hnone : w.handles = []) :
    w.proc.preopened = [] ∧ ∀ fs : Glfs, fs.id < w.proc.nextFs → w.proc.finied.count fs = 1 := by
  have hempty : w.proc.preopened = [] := by
    apply List.eq_nil_iff_forall_not_mem.mpr
    intro e he
    have := hi.ref_eq e he
    have := hi.ref_pos e he
    simp only [hnone, refCount_nil, Nat.cast_zero] at *
    omega
  refine ⟨hempty, fun fs hlt => ?_⟩
  rw [hi.finied_count fs, hempty]
  simp [Nat.not_le.mpr hlt]

end RegistryInv

theorem registryInv_of_reachable {w : GlusterWorld} (hr : GlusterReachable w) : RegistryInv w := by
  induction hr with
  | init => exact registryInv_init
  | step _ hs ih => exact ih.step hs

/-- The pre-opened registry over every run of connects (failing at any step)
and disconnects of connected handles: every reachable state keeps the
registry invariant, and no connected handle's volume was finalised; once no
handle is connected, every volume created was finalised exactly once; a
failing connect leaves the registry as it was, and a connect finalises only
the volume it created, only when it fails; a connect that succeeds leaves
`handle->data` on the registered volume of its key; a disconnect finalises
its volume exactly when it drops the last reference, and unlinks the entry
then. -/
theorem preopened_registry_lifetime :
    (∀ w, GlusterReachable w → RegistryInv w ∧ ∀ hd ∈ w.handles, hd.2 ∉ w.proc.finied) ∧
    (∀ w, GlusterReachable w → w.handles = [] →
      w.proc.preopened = [] ∧ ∀ fs : Glfs, fs.id < w.proc.nextFs → w.proc.finied.count fs = 1) ∧
    (∀ (params : GlusterParams) (env : ConnectEnv) (service connectpath : String)
      (proc : GlusterProc),
      let r := vfsGlusterConnect params env service connectpath proc
      (r.ret < 0 → r.data = none ∧ r.proc.preopened = proc.preopened) ∧
      (r.proc.finied = proc.finied ∨
        r.ret < 0 ∧ r.proc.nextFs = proc.nextFs + 1 ∧
          r.proc.finied = proc.finied ++ [⟨proc.nextFs⟩])) ∧
    (∀ w, GlusterReachable w → ∀ (params : GlusterParams) (env : ConnectEnv)
      (service connectpath : String),
      let r := vfsGlusterConnect params env service connectpath w.proc
      0 ≤ r.ret → ∃ e ∈ r.proc.preopened,
        e.key = (params.volume.getD service, connectpath) ∧ r.data = some e.fs) ∧
    (∀ w, GlusterReachable w → ∀ h fs, (h, fs) ∈ w.handles →
      ∃ e ∈ w.proc.preopened, e.fs = fs ∧
        vfsGlusterDisconnect fs w.proc =
          if e.ref - 1 ≠ 0 then { w.proc with preopened := addRef fs (-1) w.proc.preopened }
          else { w.proc with preopened := w.proc.preopened.filter (·.fs ≠ fs),
                             finied := w.proc.finied ++ [fs] }) :=
  ⟨fun _ hr => ⟨registryInv_of_reachable hr,
      fun _ hmem => ((registryInv_of_reachable hr).handle_live hmem).2⟩,
    fun _ hr hnone => (registryInv_of_reachable hr).quiescent hnone,
    connect_fini,
    fun _ hr => (registryInv_of_reachable hr).connect_data,
    fun _ hr _ _ hmem => (registryInv_of_reachable hr).disconnect_eq hmem⟩

/-- A connect in which every allocation and library call succeeds. -/
def connectSucceeds : ConnectEnv :=
  ⟨true, fun _ => true, ⟨fun _ _ => true, fun _ => 0⟩, 0, fun _ => 0, fun _ _ => 0, 0,
    ⟨true, true, true⟩⟩

/-- Handles 0 and 1 connect to volume "vol" at "/" and handle 1 disconnects:
the two share the one volume created, which stays registered for handle 0
with one reference and is not finalised. -/
theorem preopened_registry_lifetime_shared :
    ∃ w, GlusterReachable w ∧ w.handles = [(0, ⟨0⟩)] ∧
      w.proc = ⟨[⟨"vol", "/", ⟨0⟩, 1⟩], 1, []⟩ ∧
      RegistryInv w ∧ ∀ hd ∈ w.handles, hd.2 ∉ w.proc.finied := by
  let params : GlusterParams := ⟨none, none, none, none⟩
  -- the first connect creates volume 0, the second finds it
  have hconn₀ : connectStep 0 params connectSucceeds "vol" "/" GlusterWorld.init =
      ⟨⟨[⟨"vol", "/", ⟨0⟩, 1⟩], 1, []⟩, [(0, ⟨0⟩)]⟩ := by
    simp only [connectStep, vfsGlusterConnect, glusterSetup, defaultVolfileServer, Option.getD,
      params, connectSucceeds, setVolfileServers_localhost]
    rfl
  have h₀ : GlusterReachable ⟨⟨[⟨"vol", "/", ⟨0⟩, 1⟩], 1, []⟩, [(0, ⟨0⟩)]⟩ := by
    rw [← hconn₀]
    exact .step .init (.connect 0 params connectSucceeds "vol" "/" (by decide))
  have h₁ : GlusterReachable ⟨⟨[⟨"vol", "/", ⟨0⟩, 2⟩], 1, []⟩, [(1, ⟨0⟩), (0, ⟨0⟩)]⟩ :=
    .step h₀ (.connect 1 params connectSucceeds "vol" "/" (by decide))
  -- handle 1 disconnects: the volume keeps one reference
  have hw := h₁.step (@GlusterStep.disconnect _ 1 ⟨0⟩ (by decide))
  exact ⟨_, hw, rfl, rfl, preopened_registry_lifetime.1 _ hw⟩

end GlusterVfs
