import GlusterVfs.Volfile.Token

/-!
# `vfs_gluster_set_volfile_servers`

The `glusterfs:volfile_server` parameter is a list of servers separated by
spaces or tabs. Each token is parsed (`parseServer`) into the arguments of one
`glfs_set_volfile_server(fs, transport, host, port)` call:

* `unix+PATH` — transport `unix`, host `PATH`, port 0;
* `[tcp+]HOST[:PORT]` and `[tcp+][IPV6][:PORT]` — transport `tcp`; inside
  brackets a `':'` belongs to the address, after them it starts the port.

What the library answers is a parameter of the model (`VolfileEnv`): whether
each allocation succeeds and what each `glfs_set_volfile_server` call returns.
The result is the function's return value together with the calls it made.

The loop keeps three counters (`ServersLoop`), and the return value is decided
from them after the loop. `ServersLoop.Inv` relates the counters to the calls,
and from it `setVolfileServers_nonneg_of_success`: one accepted server makes
the function report success. `setVolfileServers_neg_iff` says exactly when it
reports failure: only when it reads no token at all.
-/

namespace GlusterVfs

/-- The arguments of one `glfs_set_volfile_server(fs, transport, host, port)`
call. -/
structure VolfileServer where
  transport : String
  host : String
  port : Int
deriving DecidableEq, Repr

/-- `port_index = index(p, ':')`: the text of `p` in front of the first
`':'` and the port `atoi` reads after it; port 0 when there is no `':'`. -/
def splitPort (p : List Char) : List Char × Int :=
  match splitAtChar ':' p with
  | none => (p, 0)
  | some (before, after) => (before, atoi after)

/-- The `tcp` branch of the parse, once a `tcp+` prefix is skipped: inside
brackets a `':'` belongs to the IPv6 address, after them it starts the port;
`none` is a malformed IPv6 address (a `'['` without `']'`). -/
def parseTcpServer : List Char → Option VolfileServer
  | '[' :: s => (splitAtChar ']' s).map fun (host, p) => ⟨"tcp", ⟨host⟩, (splitPort p).2⟩
  | server => some ⟨"tcp", ⟨(splitPort server).1⟩, (splitPort server).2⟩

/-- One token of the server list, as the body of the loop in
`vfs_gluster_set_volfile_servers` reads it; `none` is the malformed IPv6
address that the loop skips with `continue`. -/
def parseServer (server : List Char) : Option VolfileServer :=
  if "unix+".toList.isPrefixOf server then
    some ⟨"unix", ⟨server.drop 5⟩, 0⟩
  else
    parseTcpServer (if "tcp+".toList.isPrefixOf server then server.drop 4 else server)

/-- The three allocations made for one token: the token buffer of
`next_token_talloc` and the two `talloc_strdup`s of transport and host. -/
inductive AllocSite
  | token
  | transport
  | host
deriving DecidableEq, Repr

/-- What the library does during one call: whether the allocation at a site
for the `n`-th token succeeds, and what `glfs_set_volfile_server` returns for
the `n`-th token. -/
structure VolfileEnv where
  talloc : Nat → AllocSite → Bool
  glfsSetVolfileServer : Nat → Int

/-- The locals of the loop, with the calls made so far and their results. -/
structure ServersLoop where
  serverCount : Nat
  serverSuccess : Nat
  ret : Int
  calls : List (VolfileServer × Int)
deriving DecidableEq, Repr

/-- The separators handed to `next_token_talloc`. -/
def volfileSeparators : List Char := [' ', '\t']

/-- How one pass of the loop ends: go on with the next token, or leave the
loop for `out:`. -/
inductive LoopStep
  | next (st : ServersLoop)
  | exit (st : ServersLoop)
deriving DecidableEq, Repr

/-- One pass of the loop for the token `server`. A failed allocation of the
token buffer makes `next_token_talloc` return false, which ends the loop; a
malformed IPv6 address is skipped; a failed `talloc_strdup` jumps to `out`. -/
def serversStep (env : VolfileEnv) (st : ServersLoop) (server : List Char) : LoopStep :=
  let n := st.serverCount
  if env.talloc n .token = false then .exit st
  else
    match parseServer server with
    | none => .next { st with serverCount := n + 1 }
    | some srv =>
      if env.talloc n .transport && env.talloc n .host then
        let ret := env.glfsSetVolfileServer n
        .next
          { serverCount := n + 1
            serverSuccess := if ret < 0 then st.serverSuccess else st.serverSuccess + 1
            ret := ret
            calls := st.calls ++ [(srv, ret)] }
      else .exit { st with serverCount := n + 1 }

/-- The `while (next_token_talloc(...))` loop of
`vfs_gluster_set_volfile_servers`. -/
def serversLoop (env : VolfileEnv) (volfileServers : List Char) (st : ServersLoop) :
    ServersLoop :=
  match h : nextToken volfileSeparators volfileServers with
  | none => st
  | some (server, rest) =>
    have _ : rest.length < volfileServers.length := nextToken_length_lt h
    match serversStep env st server with
    | .next st' => serversLoop env rest st'
    | .exit st' => st'
termination_by volfileServers.length

section Unfold

variable {env : VolfileEnv} {s server rest : List Char} {st st' : ServersLoop}

theorem serversLoop_of_none (h : nextToken volfileSeparators s = none) :
    serversLoop env s st = st := by
  rw [serversLoop]
  split <;> simp_all

theorem serversLoop_of_next (h : nextToken volfileSeparators s = some (server, rest))
    (hstep : serversStep env st server = .next st') :
    serversLoop env s st = serversLoop env rest st' := by
  rw [serversLoop]
  split <;> simp_all

theorem serversLoop_of_exit (h : nextToken volfileSeparators s = some (server, rest))
    (hstep : serversStep env st server = .exit st') :
    serversLoop env s st = st' := by
  rw [serversLoop]
  split <;> simp_all

end Unfold

/-- The loop's locals on entry. -/
def serversLoopInit : ServersLoop := ⟨0, 0, -1, []⟩

/-- The code after `out:`: no token is a failure, a partial failure is
reported as 0, and otherwise the last call's result is returned. -/
def serversResult (st : ServersLoop) : Int :=
  if st.serverCount = 0 then -1
  else if st.serverSuccess < st.serverCount then 0
  else st.ret

/-- `vfs_gluster_set_volfile_servers(fs, volfile_servers)`: its return value
and the `glfs_set_volfile_server` calls it made, with their results. -/
def vfsGlusterSetVolfileServers (env : VolfileEnv) (volfileServers : String) :
    Int × List (VolfileServer × Int) :=
  let st := serversLoop env volfileServers.data serversLoopInit
  (serversResult st, st.calls)

/-! ## The counters and the calls -/

/-- The state a pass of the loop leaves, whichever way it ends. -/
def LoopStep.state : LoopStep → ServersLoop
  | .next st => st
  | .exit st => st

/-- What the loop's counters say about the calls made so far:
`server_success` counts the calls that returned `>= 0`, every call belongs to
a counted token, and `ret` holds the last call's result (-1 before the first). -/
structure ServersLoop.Inv (st : ServersLoop) : Prop where
  success_eq : st.serverSuccess = st.calls.countP fun c => 0 ≤ c.2
  calls_le : st.calls.length ≤ st.serverCount
  ret_eq : st.ret = (st.calls.getLast?.map Prod.snd).getD (-1)

theorem serversLoopInit_inv : serversLoopInit.Inv := ⟨rfl, Nat.le_refl _, rfl⟩

theorem serversStep_inv (env : VolfileEnv) {st : ServersLoop} (server : List Char)
    (hi : st.Inv) : (serversStep env st server).state.Inv := by
  obtain ⟨hs, hc, hr⟩ := hi
  unfold serversStep
  dsimp only
  split
  · exact ⟨hs, hc, hr⟩
  · split
    · exact ⟨hs, Nat.le_succ_of_le hc, hr⟩
    · split
      · -- the call: one more result, counted when it is `>= 0`
        refine ⟨?_, ?_, by simp [LoopStep.state]⟩
        · by_cases hret : env.glfsSetVolfileServer st.serverCount < 0
          · simp [LoopStep.state, List.countP_append, List.countP_cons, hs, hret,
              Int.not_le.mpr hret]
          · simp [LoopStep.state, List.countP_append, List.countP_cons, hs, hret,
              Int.not_lt.mp hret]
        · simp only [LoopStep.state, List.length_append, List.length_singleton]
          omega
      · exact ⟨hs, Nat.le_succ_of_le hc, hr⟩

theorem serversLoop_inv (env : VolfileEnv) (s : List Char) (st : ServersLoop)
    (hi : st.Inv) : (serversLoop env s st).Inv := by
  induction s, st using serversLoop.induct env with
  | case1 s st h => rwa [serversLoop_of_none h]
  | case2 s st server rest h _ st' hstep ih =>
    have hi' := serversStep_inv env server hi
    rw [hstep] at hi'
    rw [serversLoop_of_next h hstep]
    exact ih hi'
  | case3 s st server rest h _ st' hstep =>
    have hi' := serversStep_inv env server hi
    rw [hstep] at hi'
    rwa [serversLoop_of_exit h hstep]

/-- With the default server list `localhost`, the loop makes one call, for
`tcp` on `localhost` with port 0. -/
theorem setVolfileServers_localhost (results : Nat → Int) :
    vfsGlusterSetVolfileServers ⟨fun _ _ => true, results⟩ "localhost" =
      (serversResult ⟨1, if results 0 < 0 then 0 else 1, results 0,
          [(⟨"tcp", "localhost", 0⟩, results 0)]⟩,
        [(⟨"tcp", "localhost", 0⟩, results 0)]) := by
  have htok : nextToken volfileSeparators "localhost".data = some ("localhost".data, []) := by
    decide
  have hstep : serversStep ⟨fun _ _ => true, results⟩ serversLoopInit "localhost".data =
      .next ⟨1, if results 0 < 0 then 0 else 1, results 0, [(⟨"tcp", "localhost", 0⟩, results 0)]⟩ :=
    rfl
  rw [vfsGlusterSetVolfileServers, serversLoop_of_next htok hstep, serversLoop_of_none (s := []) rfl]

/-- One `glfs_set_volfile_server` call that succeeded makes
`vfs_gluster_set_volfile_servers` report success. -/
theorem setVolfileServers_nonneg_of_success (env : VolfileEnv) (volfileServers : String)
    (h : ∃ c ∈ (vfsGlusterSetVolfileServers env volfileServers).2, 0 ≤ c.2) :
    0 ≤ (vfsGlusterSetVolfileServers env volfileServers).1 := by
  simp only [vfsGlusterSetVolfileServers] at h ⊢
  obtain ⟨hs, hc, hr⟩ := serversLoop_inv env volfileServers.data _ serversLoopInit_inv
  generalize serversLoop env volfileServers.data serversLoopInit = st at h hs hc hr ⊢
  obtain ⟨c, hmem, hc0⟩ := h
  have hpos : 0 < st.serverSuccess := hs ▸ List.countP_pos_iff.mpr ⟨c, hmem, by simpa using hc0⟩
  have hle := List.countP_le_length (fun c : VolfileServer × Int => decide (0 ≤ c.2))
    (l := st.calls)
  unfold serversResult
  split
  · omega
  split
  · exact Int.le_refl 0
  -- every counted token made a call that succeeded, and `ret` is the last one
  have hall : ∀ a ∈ st.calls, decide (0 ≤ a.2) = true := List.countP_eq_length.mp (by omega)
  have hne : st.calls ≠ [] := List.ne_nil_of_mem hmem
  rw [hr, List.getLast?_eq_getLast _ hne]
  simpa using hall _ (List.getLast_mem hne)

theorem setVolfileServers_nonneg_localhost :
    0 ≤ (vfsGlusterSetVolfileServers ⟨fun _ _ => true, fun _ => 0⟩ "localhost").1 :=
  setVolfileServers_nonneg_of_success _ _
    ⟨(⟨"tcp", "localhost", 0⟩, 0), by simp [setVolfileServers_localhost], le_refl 0⟩

/-- The converse fails: a list whose only entry is a malformed IPv6 address,
or whose only server is rejected, is reported as a success (0) although no
volfile server was set. -/
theorem setVolfileServers_reports_success_without_server (results : Nat → Int) :
    vfsGlusterSetVolfileServers ⟨fun _ _ => true, results⟩ "[::1" = (0, []) ∧
    vfsGlusterSetVolfileServers ⟨fun _ _ => true, fun _ => -1⟩ "localhost" =
      (0, [(⟨"tcp", "localhost", 0⟩, -1)]) := by
  constructor
  · have htok : nextToken volfileSeparators "[::1".data = some ("[::1".data, []) := by decide
    have hstep : serversStep ⟨fun _ _ => true, results⟩ serversLoopInit "[::1".data =
        .next ⟨1, 0, -1, []⟩ := rfl
    rw [vfsGlusterSetVolfileServers, serversLoop_of_next htok hstep, serversLoop_of_none (s := []) rfl]
    rfl
  · rw [setVolfileServers_localhost]
    rfl

/-! ## When the function reports failure -/

/-- A pass of the loop counts its token unless the token buffer's allocation
fails. -/
theorem serversStep_count (env : VolfileEnv) (st : ServersLoop) (server : List Char) :
    (serversStep env st server).state.serverCount =
      if env.talloc st.serverCount .token = false then st.serverCount else st.serverCount + 1 := by
  unfold serversStep
  dsimp only
  split
  · rfl
  · split
    · rfl
    · split <;> rfl

/-- A pass of the loop never uncounts a token. -/
theorem serversStep_count_ge (env : VolfileEnv) (st : ServersLoop) (server : List Char) :
    st.serverCount ≤ (serversStep env st server).state.serverCount := by
  rw [serversStep_count]
  split <;> omega

/-- Nor does the loop. -/
theorem serversLoop_count_ge (env : VolfileEnv) (s : List Char) (st : ServersLoop) :
    st.serverCount ≤ (serversLoop env s st).serverCount := by
  induction s, st using serversLoop.induct env with
  | case1 s st h => rw [serversLoop_of_none h]
  | case2 s st server rest h _ st' hstep ih =>
    have hc := serversStep_count_ge env st server
    rw [hstep] at hc
    rw [serversLoop_of_next h hstep]
    exact le_trans hc ih
  | case3 s st server rest h _ st' hstep =>
    have hc := serversStep_count_ge env st server
    rw [hstep] at hc
    rwa [serversLoop_of_exit h hstep]

/-- The loop keeps at least what its first pass counted. -/
theorem serversLoop_count_ge_step (env : VolfileEnv) (st : ServersLoop) {s server rest : List Char}
    (h : nextToken volfileSeparators s = some (server, rest)) :
    (serversStep env st server).state.serverCount ≤ (serversLoop env s st).serverCount := by
  cases hstep : serversStep env st server with
  | next st' =>
    rw [serversLoop_of_next h hstep]
    exact serversLoop_count_ge env rest st'
  | exit st' => rw [serversLoop_of_exit h hstep]; rfl

/-- Once a token was counted, the result after `out:` is the last call's when
every counted token made a call and every call succeeded, and 0 otherwise. -/
theorem serversResult_of_count_ne_zero {st : ServersLoop} (hi : st.Inv) (h : st.serverCount ≠ 0) :
    serversResult st =
      if st.calls.length = st.serverCount ∧ ∀ c ∈ st.calls, 0 ≤ c.2 then
        (st.calls.getLast?.map Prod.snd).getD (-1)
      else 0 := by
  obtain ⟨hs, hc, hr⟩ := hi
  have hle := List.countP_le_length (fun c : VolfileServer × Int => decide (0 ≤ c.2))
    (l := st.calls)
  -- every call succeeded exactly when all of them are counted as successes
  have hall : (∀ c ∈ st.calls, 0 ≤ c.2) ↔ st.serverSuccess = st.calls.length := by
    simp [hs, List.countP_eq_length]
  unfold serversResult
  rw [if_neg h, ← hr]
  by_cases hlt : st.serverSuccess < st.serverCount
  · rw [if_pos hlt, if_neg fun ⟨hlen, hok⟩ => by have := hall.mp hok; omega]
  · rw [if_neg hlt, if_pos ⟨by omega, hall.mpr (by omega)⟩]

/-- After `out:` the result is negative exactly when no token was counted:
once one was, the result is 0 or the last call's, which succeeded. -/
theorem serversResult_neg_iff {st : ServersLoop} (hi : st.Inv) :
    serversResult st < 0 ↔ st.serverCount = 0 := by
  by_cases h : st.serverCount = 0
  · simp [serversResult, h]
  rw [serversResult_of_count_ne_zero hi h]
  refine iff_of_false ?_ h
  split_ifs with hall
  · have hne : st.calls ≠ [] := List.ne_nil_of_length_pos (by omega)
    rw [List.getLast?_eq_getLast _ hne]
    exact not_lt.mpr (hall.2 _ (List.getLast_mem hne))
  · exact Int.lt_irrefl 0

/-- The loop counts no token exactly when the list has none or the first
token's buffer is not allocated. -/
theorem serversLoop_count_eq_zero_iff (env : VolfileEnv) (s : List Char) :
    (serversLoop env s serversLoopInit).serverCount = 0 ↔
      nextToken volfileSeparators s = none ∨ env.talloc 0 .token = false := by
  cases h : nextToken volfileSeparators s with
  | none => simp [serversLoop_of_none h, serversLoopInit]
  | some p =>
    obtain ⟨server, rest⟩ := p
    have hge := serversLoop_count_ge_step env serversLoopInit h
    rw [serversStep_count] at hge
    cases ht : env.talloc 0 .token
    · -- the first token's buffer is not allocated: the loop ends at once
      have hstep : serversStep env serversLoopInit server = .exit serversLoopInit := by
        simp [serversStep, serversLoopInit, ht]
      rw [serversLoop_of_exit h hstep]
      simp [serversLoopInit]
    · -- the first token is counted, and the loop never uncounts it
      simp [serversLoopInit, ht] at hge ⊢
      omega

/-- `vfs_gluster_set_volfile_servers` reports failure only when it reads no
token: it returns -1, having made no call, exactly when the list has no token
or the allocation of its first token fails. Once a first token is read, every
outcome (servers the library rejects, malformed IPv6 entries, a failed
`talloc_strdup`, the buffer of a later token not allocated) is reported as
the last call's result when every token the loop counted made a call and
every call succeeded, and as 0 otherwise. -/
theorem setVolfileServers_neg_iff (env : VolfileEnv) (volfileServers : String) :
    ((vfsGlusterSetVolfileServers env volfileServers).1 < 0 ↔
      nextToken volfileSeparators volfileServers.data = none ∨ env.talloc 0 .token = false) ∧
    ((vfsGlusterSetVolfileServers env volfileServers).1 < 0 →
      vfsGlusterSetVolfileServers env volfileServers = (-1, [])) ∧
    (¬ (nextToken volfileSeparators volfileServers.data = none ∨ env.talloc 0 .token = false) →
      let st := serversLoop env volfileServers.data serversLoopInit
      (vfsGlusterSetVolfileServers env volfileServers).1 =
        if st.calls.length = st.serverCount ∧ ∀ c ∈ st.calls, 0 ≤ c.2 then
          (st.calls.getLast?.map Prod.snd).getD (-1)
        else 0) := by
  have hi := serversLoop_inv env volfileServers.data _ serversLoopInit_inv
  have hcount := serversLoop_count_eq_zero_iff env volfileServers.data
  simp only [vfsGlusterSetVolfileServers]
  rw [serversResult_neg_iff hi, hcount]
  refine ⟨Iff.rfl, fun hnone => ?_,
    fun htok => serversResult_of_count_ne_zero hi (mt hcount.mp htok)⟩
  -- no token counted: no call made, and the result of `out:` is -1
  have h0 := hcount.mpr hnone
  have hnil : (serversLoop env volfileServers.data serversLoopInit).calls = [] :=
    List.eq_nil_of_length_eq_zero (Nat.le_zero.mp (h0 ▸ hi.calls_le))
  simp [serversResult, h0, hnil]

end GlusterVfs
