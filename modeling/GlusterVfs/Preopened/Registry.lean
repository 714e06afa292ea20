import Mathlib

/-!
# The registry of pre-opened volumes

`vfs_glusterfs.c` keeps one `glfs_t` per `(volume, connectpath)` for the whole
process, in the doubly linked list `glfs_preopened`, with a reference count
per entry. Three functions use it:

* `glfs_set_preopened` — add an entry with `ref = 1` at the head
  (`DLIST_ADD`), or fail with `ENOMEM`;
* `glfs_find_preopened` — the first entry with the given key: bump its
  `ref` and return its `fs`;
* `glfs_clear_preopened` — for each entry of `fs`: drop one reference; when
  none is left, unlink the entry, `glfs_fini` its `fs`, and go on scanning.

The list is a `List GlfsPreopened` (head first) and each function returns the
new list; `glfs_clear_preopened` also returns the volumes it passed to
`glfs_fini`. Under the registry's invariant (distinct keys, distinct volumes)
the three functions have a plain meaning on the whole list: `addRef` one
volume's count (`glfsFindPreopened_of_mem`, `glfsClearPreopened_of_mem`), or
filter its entry out.
-/

namespace GlusterVfs

/-- A `glfs_t *`: the volume object `glfs_new` returned, told apart by its
allocation. -/
structure Glfs where
  id : Nat
deriving DecidableEq, Repr

/-- One entry of the `glfs_preopened` list. -/
structure GlfsPreopened where
  volume : String
  connectpath : String
  fs : Glfs
  ref : Int
deriving DecidableEq, Repr

/-- Whether the three allocations of `glfs_set_preopened` succeed: the entry,
and the copies of the volume name and of the connect path. -/
structure PreopenedAlloc where
  entry : Bool
  volume : Bool
  connectpath : Bool
deriving DecidableEq, Repr

/-- `glfs_set_preopened(volume, connectpath, fs)`: the new list, or `none`
for the `-1` of a failed allocation, which leaves the list alone. -/
def glfsSetPreopened (alloc : PreopenedAlloc) (volume connectpath : String) (fs : Glfs)
    (preopened : List GlfsPreopened) : Option (List GlfsPreopened) :=
  if alloc.entry && alloc.volume && alloc.connectpath then
    some (⟨volume, connectpath, fs, 1⟩ :: preopened)
  else none

/-- `glfs_find_preopened(volume, connectpath)`: the `fs` of the first entry
with that key, whose `ref` it increments. -/
def glfsFindPreopened (volume connectpath : String) :
    List GlfsPreopened → Option Glfs × List GlfsPreopened
  | [] => (none, [])
  | entry :: rest =>
    if entry.volume = volume ∧ entry.connectpath = connectpath then
      (some entry.fs, { entry with ref := entry.ref + 1 } :: rest)
    else
      let (found, rest) := glfsFindPreopened volume connectpath rest
      (found, entry :: rest)

/-- `glfs_clear_preopened(fs)`: the new list and the volumes passed to
`glfs_fini`. The loop returns at the first entry of `fs` whose count stays
positive; an entry whose count drops to zero is unlinked and finalised, and
the scan goes on with the entries after it. -/
def glfsClearPreopened (fs : Glfs) : List GlfsPreopened → List GlfsPreopened × List Glfs
  | [] => ([], [])
  | entry :: rest =>
    if entry.fs = fs then
      if entry.ref - 1 ≠ 0 then ({ entry with ref := entry.ref - 1 } :: rest, [])
      else
        let (rest, finied) := glfsClearPreopened fs rest
        (rest, entry.fs :: finied)
    else
      let (rest, finied) := glfsClearPreopened fs rest
      (entry :: rest, finied)

/-! ## The registry as a whole -/

/-- The key an entry is found by. -/
def GlfsPreopened.key (entry : GlfsPreopened) : String × String :=
  (entry.volume, entry.connectpath)

/-- Add `delta` to the count of the entries of `fs`. -/
def addRef (fs : Glfs) (delta : Int) (preopened : List GlfsPreopened) : List GlfsPreopened :=
  preopened.map fun entry => if entry.fs = fs then { entry with ref := entry.ref + delta } else entry

@[simp] theorem addRef_cons (fs : Glfs) (delta : Int) (entry : GlfsPreopened)
    (rest : List GlfsPreopened) :
    addRef fs delta (entry :: rest) =
      (if entry.fs = fs then { entry with ref := entry.ref + delta } else entry) ::
        addRef fs delta rest := rfl

theorem mem_addRef {x : GlfsPreopened} {fs : Glfs} {delta : Int} {preopened : List GlfsPreopened} :
    x ∈ addRef fs delta preopened ↔
      ∃ y ∈ preopened, (if y.fs = fs then { y with ref := y.ref + delta } else y) = x :=
  List.mem_map

@[simp] theorem addRef_map_fs (fs : Glfs) (delta : Int) (preopened : List GlfsPreopened) :
    (addRef fs delta preopened).map (·.fs) = preopened.map (·.fs) := by
  simp only [addRef, List.map_map]
  congr 1
  funext entry
  by_cases h : entry.fs = fs <;> simp [h]

@[simp] theorem addRef_map_key (fs : Glfs) (delta : Int) (preopened : List GlfsPreopened) :
    (addRef fs delta preopened).map GlfsPreopened.key = preopened.map GlfsPreopened.key := by
  simp only [addRef, List.map_map]
  congr 1
  funext entry
  by_cases h : entry.fs = fs <;> simp [h, GlfsPreopened.key]

theorem addRef_of_not_mem {fs : Glfs} {preopened : List GlfsPreopened} (delta : Int)
    (h : fs ∉ preopened.map (·.fs)) : addRef fs delta preopened = preopened := by
  rw [addRef, List.map_congr_left (g := id), List.map_id]
  intro entry he
  rw [if_neg (fun hfs => h (List.mem_map.mpr ⟨entry, he, hfs⟩))]
  rfl

theorem not_mem_map_fs_filter (fs : Glfs) (preopened : List GlfsPreopened) :
    fs ∉ (preopened.filter (·.fs ≠ fs)).map (·.fs) := by
  intro hm
  obtain ⟨y, hy, hyfs⟩ := List.mem_map.mp hm
  exact of_decide_eq_true (List.mem_filter.mp hy).2 hyfs

theorem mem_map_fs_filter {g fs : Glfs} (preopened : List GlfsPreopened) (hg : g ≠ fs) :
    g ∈ (preopened.filter (·.fs ≠ fs)).map (·.fs) ↔ g ∈ preopened.map (·.fs) := by
  constructor
  · intro hm
    obtain ⟨y, hy, rfl⟩ := List.mem_map.mp hm
    exact List.mem_map_of_mem _ (List.mem_of_mem_filter hy)
  · intro hm
    obtain ⟨y, hy, rfl⟩ := List.mem_map.mp hm
    exact List.mem_map_of_mem _ (List.mem_filter.mpr ⟨hy, decide_eq_true hg⟩)

/-! ## The three functions on a well-formed registry -/

theorem glfsFindPreopened_of_forall_not {volume connectpath : String}
    {preopened : List GlfsPreopened}
    (h : ∀ entry ∈ preopened, entry.key ≠ (volume, connectpath)) :
    glfsFindPreopened volume connectpath preopened = (none, preopened) := by
  induction preopened with
  | nil => rfl
  | cons entry rest ih =>
    have hne := h entry (List.mem_cons_self _ _)
    simp only [GlfsPreopened.key, ne_eq, Prod.mk.injEq] at hne
    simp [glfsFindPreopened, hne, ih (fun e he => h e (List.mem_cons_of_mem _ he))]

/-- With distinct keys and volumes, finding the entry of a key bumps exactly
that entry's count. -/
theorem glfsFindPreopened_of_mem {volume connectpath : String} {entry : GlfsPreopened}
    {preopened : List GlfsPreopened} (hkeys : (preopened.map GlfsPreopened.key).Nodup)
    (hfs : (preopened.map (·.fs)).Nodup) (he : entry ∈ preopened)
    (hkey : entry.key = (volume, connectpath)) :
    glfsFindPreopened volume connectpath preopened = (some entry.fs, addRef entry.fs 1 preopened) := by
  induction preopened with
  | nil => cases he
  | cons x rest ih =>
    simp only [List.map_cons, List.nodup_cons] at hkeys hfs
    by_cases hx : x.key = (volume, connectpath)
    · -- the head has the key, so it is the entry
      have hxe : x = entry := by
        rcases List.mem_cons.mp he with rfl | hrest
        · rfl
        · exact absurd (List.mem_map.mpr ⟨entry, hrest, hkey.trans hx.symm⟩) hkeys.1
      subst hxe
      simp only [GlfsPreopened.key, Prod.mk.injEq] at hx
      simp [glfsFindPreopened, hx, addRef_of_not_mem 1 hfs.1]
    · have hrest : entry ∈ rest := by
        rcases List.mem_cons.mp he with rfl | hrest
        · exact absurd hkey hx
        · exact hrest
      have hxfs : x.fs ≠ entry.fs := fun h => hfs.1 (List.mem_map.mpr ⟨entry, hrest, h.symm⟩)
      simp only [GlfsPreopened.key, Prod.mk.injEq] at hx
      simp [glfsFindPreopened, hx, ih hkeys.2 hfs.2 hrest, hxfs]

theorem glfsClearPreopened_of_not_mem {fs : Glfs} {preopened : List GlfsPreopened}
    (h : fs ∉ preopened.map (·.fs)) : glfsClearPreopened fs preopened = (preopened, []) := by
  induction preopened with
  | nil => rfl
  | cons entry rest ih =>
    simp only [List.map_cons, List.mem_cons, not_or] at h
    simp [glfsClearPreopened, Ne.symm h.1, ih h.2]

/-- With distinct volumes, clearing `fs` drops one reference of its entry, and
unlinks and finalises it when that was the last one. -/
theorem glfsClearPreopened_of_mem {entry : GlfsPreopened} {preopened : List GlfsPreopened}
    (hfs : (preopened.map (·.fs)).Nodup) (he : entry ∈ preopened) :
    glfsClearPreopened entry.fs preopened =
      if entry.ref - 1 ≠ 0 then (addRef entry.fs (-1) preopened, [])
      else (preopened.filter (·.fs ≠ entry.fs), [entry.fs]) := by
  induction preopened with
  | nil => cases he
  | cons x rest ih =>
    simp only [List.map_cons, List.nodup_cons] at hfs
    by_cases hx : x.fs = entry.fs
    · -- the head holds `fs`, so it is the entry
      have hxe : x = entry := by
        rcases List.mem_cons.mp he with rfl | hrest
        · rfl
        · exact absurd (List.mem_map.mpr ⟨entry, hrest, hx.symm⟩) hfs.1
      subst hxe
      have hrest : ∀ e ∈ rest, e.fs ≠ x.fs := fun e he h => hfs.1 (List.mem_map.mpr ⟨e, he, h⟩)
      by_cases hlast : x.ref - 1 ≠ 0
      · rw [glfsClearPreopened, if_pos rfl, if_pos hlast, if_pos hlast, addRef_cons, if_pos rfl,
          addRef_of_not_mem _ hfs.1, Int.sub_eq_add_neg]
      · rw [glfsClearPreopened, if_pos rfl, if_neg hlast, if_neg hlast,
          glfsClearPreopened_of_not_mem hfs.1, List.filter_cons_of_neg (by simp),
          List.filter_eq_self.mpr (fun e he => decide_eq_true (hrest e he))]
    · have hrest : entry ∈ rest := by
        rcases List.mem_cons.mp he with rfl | hrest
        · exact absurd rfl hx
        · exact hrest
      rw [glfsClearPreopened, if_neg hx, ih hfs.2 hrest]
      by_cases hlast : entry.ref - 1 ≠ 0 <;> simp [hlast, hx]

end GlusterVfs
