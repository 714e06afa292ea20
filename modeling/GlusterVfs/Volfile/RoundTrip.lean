import GlusterVfs.Volfile.Servers

/-!
# Parsing undoes rendering

The documented syntax of `glusterfs:volfile_server` as data (`ServerToken`):
each server renders to one token, and the list to its tokens separated by
runs of spaces and tabs (`renderServers`). The result of this module:

* **parse** — each well-formed token parses to its own
  `(transport, host, port)` (`parseServer_render`);
* **scan** — `next_token_talloc` cuts a rendered list back into its tokens
  (`nextToken_render`);
* **round trip** — with every allocation succeeding, the function calls
  `glfs_set_volfile_server` once per server, in list order, with that
  server's arguments (`setVolfileServers_render`), whatever the calls return.

An entry whose rendering is empty (a bare empty host) is no token at all: the
scan cannot see it, so the round trip needs every token to be nonempty
(`setVolfileServers_render_not_total`).
-/

namespace GlusterVfs

/-! ## The documented syntax -/

/-- One server of the list, in the forms the parameter accepts: a unix socket
path, or a tcp host (an IPv6 literal in brackets, or a name) with an optional
`tcp+` prefix and an optional port. -/
inductive ServerToken
  | unix (path : List Char)
  | ipv6 (tcp : Bool) (host : List Char) (port : Option Nat)
  | hostname (tcp : Bool) (host : List Char) (port : Option Nat)
deriving DecidableEq, Repr

/-- The optional `tcp+` prefix. -/
def tcpPrefix (tcp : Bool) : List Char := if tcp then "tcp+".toList else []

/-- The optional `:PORT` suffix, the port in decimal. -/
def portSuffix : Option Nat → List Char
  | none => []
  | some p => ':' :: Nat.toDigits 10 p

/-- The text of one server in the list. -/
def ServerToken.render : ServerToken → List Char
  | .unix path => "unix+".toList ++ path
  | .ipv6 tcp host port => tcpPrefix tcp ++ '[' :: (host ++ ']' :: portSuffix port)
  | .hostname tcp host port => tcpPrefix tcp ++ (host ++ portSuffix port)

/-- The `glfs_set_volfile_server` arguments a server stands for. -/
def ServerToken.server : ServerToken → VolfileServer
  | .unix path => ⟨"unix", ⟨path⟩, 0⟩
  | .ipv6 _ host port => ⟨"tcp", ⟨host⟩, (port.getD 0 : Nat)⟩
  | .hostname _ host port => ⟨"tcp", ⟨host⟩, (port.getD 0 : Nat)⟩

/-- The separators of the list. -/
def IsBlank (c : Char) : Prop := c = ' ' ∨ c = '\t'

/-- A character that may stand inside a token: no separator, no quote. -/
def TokenChar (c : Char) : Prop := ¬IsBlank c ∧ c ≠ '"'

instance : DecidablePred IsBlank := fun c => inferInstanceAs (Decidable (c = ' ' ∨ c = '\t'))

instance : DecidablePred TokenChar := fun c =>
  inferInstanceAs (Decidable (¬IsBlank c ∧ c ≠ '"'))

/-- A port in `0..INT_MAX`, when there is one. -/
def PortOk : Option Nat → Prop
  | none => True
  | some p => (p : Int) ≤ intMax

instance : DecidablePred PortOk
  | none => inferInstanceAs (Decidable True)
  | some p => inferInstanceAs (Decidable ((p : Int) ≤ intMax))

/-- The documented constraints on each form: no separator or quote anywhere,
no `']'` inside brackets, and a host name without `':'` that does not start
like another form. -/
def ServerToken.Wf : ServerToken → Prop
  | .unix path => ∀ c ∈ path, TokenChar c
  | .ipv6 _ host port => (∀ c ∈ host, TokenChar c ∧ c ≠ ']') ∧ PortOk port
  | .hostname tcp host port =>
    (∀ c ∈ host, TokenChar c ∧ c ≠ ':') ∧ host.head? ≠ some '[' ∧
      (tcp = false → ¬"unix+".toList <+: host ∧ ¬"tcp+".toList <+: host) ∧ PortOk port

instance : DecidablePred ServerToken.Wf
  | .unix path => inferInstanceAs (Decidable (∀ c ∈ path, TokenChar c))
  | .ipv6 _ host port =>
    inferInstanceAs (Decidable ((∀ c ∈ host, TokenChar c ∧ c ≠ ']') ∧ PortOk port))
  | .hostname tcp host port =>
    inferInstanceAs (Decidable ((∀ c ∈ host, TokenChar c ∧ c ≠ ':') ∧
      host.head? ≠ some '[' ∧
      (tcp = false → ¬"unix+".toList <+: host ∧ ¬"tcp+".toList <+: host) ∧ PortOk port))

/-- A rendered list: leading blanks, then each server followed by its gap. -/
def renderServers (lead : List Char) (items : List (ServerToken × List Char)) : List Char :=
  lead ++ items.flatMap fun it => it.1.render ++ it.2

/-- Every gap is a run of blanks, and only the last may be empty. -/
def GapsOk : List (ServerToken × List Char) → Prop
  | [] => True
  | it :: rest => (∀ c ∈ it.2, IsBlank c) ∧ (rest ≠ [] → it.2 ≠ []) ∧ GapsOk rest

instance decGapsOk : DecidablePred GapsOk
  | [] => inferInstanceAs (Decidable True)
  | it :: rest =>
    have := decGapsOk rest
    inferInstanceAs
      (Decidable ((∀ c ∈ it.2, IsBlank c) ∧ (rest ≠ [] → it.2 ≠ []) ∧ GapsOk rest))

/-! ## Parsing one token -/

theorem splitAtChar_append {c : Char} {xs : List Char} (ys : List Char) (h : c ∉ xs) :
    splitAtChar c (xs ++ c :: ys) = some (xs, ys) := by
  induction xs with
  | nil => simp [splitAtChar]
  | cons x xs ih =>
    simp only [List.mem_cons, not_or] at h
    simp [splitAtChar, Ne.symm h.1, ih h.2]

theorem splitAtChar_eq_none {c : Char} {xs : List Char} (h : c ∉ xs) :
    splitAtChar c xs = none := by
  induction xs with
  | nil => rfl
  | cons x xs ih =>
    simp only [List.mem_cons, not_or] at h
    simp [splitAtChar, Ne.symm h.1, ih h.2]

theorem splitPort_portSuffix {host : List Char} {port : Option Nat} (hhost : ':' ∉ host)
    (hport : PortOk port) :
    splitPort (host ++ portSuffix port) = (host, ((port.getD 0 : Nat) : Int)) := by
  cases port with
  | none => simp [splitPort, portSuffix, splitAtChar_eq_none hhost]
  | some p => simp [splitPort, portSuffix, splitAtChar_append _ hhost, atoi_toDigits hport]

theorem parseTcpServer_ipv6 {host : List Char} {port : Option Nat} (hhost : ']' ∉ host)
    (hport : PortOk port) :
    parseTcpServer ('[' :: (host ++ ']' :: portSuffix port)) =
      some ⟨"tcp", ⟨host⟩, (port.getD 0 : Nat)⟩ := by
  have hp := @splitPort_portSuffix [] port (List.not_mem_nil _) hport
  simp only [List.nil_append] at hp
  simp [parseTcpServer, splitAtChar_append _ hhost, hp]

theorem parseTcpServer_hostname {host : List Char} {port : Option Nat}
    (hhead : host.head? ≠ some '[') (hhost : ':' ∉ host) (hport : PortOk port) :
    parseTcpServer (host ++ portSuffix port) = some ⟨"tcp", ⟨host⟩, (port.getD 0 : Nat)⟩ := by
  rw [parseTcpServer.eq_2, splitPort_portSuffix hhost hport]
  intro s hs
  cases host with
  | nil => cases port <;> simp [portSuffix] at hs
  | cons c cs => simp_all

/-- Neither `unix+` nor `tcp+` holds a `':'`, so a port suffix cannot complete
either prefix. -/
theorem not_prefix_append_portSuffix {pre host : List Char} (port : Option Nat)
    (hpre : ¬pre <+: host) (hcolon : ':' ∉ pre) : ¬pre <+: host ++ portSuffix port := by
  intro h
  rcases List.prefix_or_prefix_of_prefix h (List.prefix_append host _) with h' | ⟨t, rfl⟩
  · exact hpre h'
  · rw [List.prefix_append_right_inj] at h
    cases t with
    | nil => exact hpre (by simp)
    | cons c t =>
      cases port with
      | none => simp [portSuffix] at h
      | some p =>
        obtain ⟨rfl, -⟩ := List.cons_prefix_cons.mp h
        exact hcolon (by simp)

theorem parseServer_tcpPrefix (rest : List Char) :
    parseServer ("tcp+".toList ++ rest) = parseTcpServer rest := by
  have hu : "unix+".toList.isPrefixOf ("tcp+".toList ++ rest) = false := rfl
  have ht : "tcp+".toList.isPrefixOf ("tcp+".toList ++ rest) = true :=
    List.isPrefixOf_iff_prefix.mpr (List.prefix_append _ _)
  simp only [parseServer, hu, ht, Bool.false_eq_true, ↓reduceIte]
  rfl

theorem parseServer_of_not_prefix {server : List Char} (hu : ¬"unix+".toList <+: server)
    (ht : ¬"tcp+".toList <+: server) : parseServer server = parseTcpServer server := by
  rw [parseServer, if_neg (fun h => hu (List.isPrefixOf_iff_prefix.mp h)),
    if_neg (fun h => ht (List.isPrefixOf_iff_prefix.mp h))]

/-- Each well-formed server parses to its own arguments. -/
theorem parseServer_render {t : ServerToken} (h : t.Wf) : parseServer t.render = some t.server := by
  cases t with
  | unix path =>
    have hu : "unix+".toList.isPrefixOf ("unix+".toList ++ path) = true :=
      List.isPrefixOf_iff_prefix.mpr (List.prefix_append _ _)
    simp only [ServerToken.render, ServerToken.server, parseServer, hu, ↓reduceIte]
    rfl
  | ipv6 tcp host port =>
    obtain ⟨hhost, hport⟩ := h
    have hb : ']' ∉ host := fun hm => (hhost _ hm).2 rfl
    cases tcp with
    | true => rw [ServerToken.render, tcpPrefix, if_pos rfl, parseServer_tcpPrefix,
        parseTcpServer_ipv6 hb hport]; rfl
    | false => rw [ServerToken.render, tcpPrefix, if_neg Bool.false_ne_true, List.nil_append,
        parseServer_of_not_prefix (by simp) (by simp), parseTcpServer_ipv6 hb hport]; rfl
  | hostname tcp host port =>
    obtain ⟨hhost, hhead, hplain, hport⟩ := h
    have hc : ':' ∉ host := fun hm => (hhost _ hm).2 rfl
    cases tcp with
    | true => rw [ServerToken.render, tcpPrefix, if_pos rfl, parseServer_tcpPrefix,
        parseTcpServer_hostname hhead hc hport]; rfl
    | false =>
      obtain ⟨hu, ht⟩ := hplain rfl
      rw [ServerToken.render, tcpPrefix, if_neg Bool.false_ne_true, List.nil_append,
        parseServer_of_not_prefix (not_prefix_append_portSuffix port hu (by decide))
          (not_prefix_append_portSuffix port ht (by decide)),
        parseTcpServer_hostname hhead hc hport]
      rfl

/-! ## Scanning a rendered list -/

theorem mem_volfileSeparators {c : Char} : c ∈ volfileSeparators ↔ IsBlank c := by
  simp [volfileSeparators, IsBlank]

theorem tokenChars_append {tok r : List Char} (htok : ∀ c ∈ tok, TokenChar c)
    (hr : ∀ c ∈ r.head?, IsBlank c) :
    tokenChars volfileSeparators false (tok ++ r) = (tok, r) := by
  induction tok with
  | nil =>
    cases r with
    | nil => rfl
    | cons c cs => simp [tokenChars, mem_volfileSeparators.mpr (hr c rfl)]
  | cons c tok ih =>
    obtain ⟨hblank, hquote⟩ := htok c (List.mem_cons_self _ _)
    simp [tokenChars, mem_volfileSeparators, hblank, hquote,
      ih (fun d hd => htok d (List.mem_cons_of_mem _ hd))]

theorem dropWhile_blank {lead tok : List Char} (hlead : ∀ c ∈ lead, IsBlank c)
    (htok : ∀ c ∈ tok.head?, ¬IsBlank c) :
    (lead ++ tok).dropWhile volfileSeparators.contains = tok := by
  induction lead with
  | nil =>
    cases tok with
    | nil => rfl
    | cons c cs => simp [List.dropWhile_cons, mem_volfileSeparators, htok c rfl]
  | cons c lead ih =>
    simp [List.dropWhile_cons, mem_volfileSeparators, hlead c (List.mem_cons_self _ _),
      ih (fun d hd => hlead d (List.mem_cons_of_mem _ hd))]

/-- `next_token_talloc` on blanks, a token, and text that starts with a blank
(or nothing): the token, and the text after that blank. -/
theorem nextToken_render {lead tok r : List Char} (hlead : ∀ c ∈ lead, IsBlank c)
    (hne : tok ≠ []) (htok : ∀ c ∈ tok, TokenChar c) (hr : ∀ c ∈ r.head?, IsBlank c) :
    nextToken volfileSeparators (lead ++ (tok ++ r)) = some (tok, r.drop 1) := by
  obtain ⟨c, cs, rfl⟩ := List.exists_cons_of_ne_nil hne
  have hhead : ∀ d ∈ (c :: cs ++ r).head?, ¬IsBlank d := by
    simpa using (htok c (List.mem_cons_self _ _)).1
  have hscan := tokenChars_append htok hr
  rw [nextToken, dropWhile_blank hlead hhead]
  simp only [List.cons_append] at hscan ⊢
  rw [hscan]

theorem nextToken_blank {lead : List Char} (hlead : ∀ c ∈ lead, IsBlank c) :
    nextToken volfileSeparators lead = none := by
  have h := @dropWhile_blank lead [] hlead (by simp)
  rw [List.append_nil] at h
  rw [nextToken, h]

/-! ## The whole list -/

theorem tokenChar_of_isDigit {c : Char} (h : c.isDigit) : TokenChar c := by
  refine ⟨?_, ?_⟩
  · rintro (rfl | rfl) <;> exact absurd h (by decide)
  · rintro rfl; exact absurd h (by decide)

theorem portSuffix_tokenChar (port : Option Nat) : ∀ c ∈ portSuffix port, TokenChar c := by
  cases port with
  | none => simp [portSuffix]
  | some p =>
    rintro c (_ | ⟨_, hc⟩)
    · decide
    · exact tokenChar_of_isDigit ((toDigitsCore_spec (p + 1) p (Nat.lt_succ_self p)).1 c hc)

theorem tcpPrefix_tokenChar (tcp : Bool) : ∀ c ∈ tcpPrefix tcp, TokenChar c := by
  cases tcp <;> decide

/-- A well-formed server renders to token characters only. -/
theorem render_tokenChar {t : ServerToken} (h : t.Wf) : ∀ c ∈ t.render, TokenChar c := by
  intro c hc
  cases t with
  | unix path =>
    rcases List.mem_append.mp hc with hc | hc
    · exact (show ∀ d ∈ "unix+".toList, TokenChar d by decide) c hc
    · exact h c hc
  | ipv6 tcp host port =>
    simp only [ServerToken.render, List.mem_append, List.mem_cons] at hc
    rcases hc with hc | rfl | hc | rfl | hc
    · exact tcpPrefix_tokenChar tcp c hc
    · decide
    · exact (h.1 c hc).1
    · decide
    · exact portSuffix_tokenChar port c hc
  | hostname tcp host port =>
    simp only [ServerToken.render, List.mem_append] at hc
    rcases hc with hc | hc | hc
    · exact tcpPrefix_tokenChar tcp c hc
    · exact (h.1 c hc).1
    · exact portSuffix_tokenChar port c hc

/-- The rest of the list after one blank: a gap is nonempty unless it is the
last one. -/
theorem drop_gap_append {gap rest : List Char} (h : gap ≠ [] ∨ rest = []) :
    (gap ++ rest).drop 1 = gap.drop 1 ++ rest := by
  rcases h with h | rfl
  · exact List.drop_append_of_le_length (List.length_pos.mpr h)
  · simp

/-- With every allocation succeeding, the loop over a rendered list makes one
call per server, in list order. -/
theorem serversLoop_render (results : Nat → Int) :
    ∀ (items : List (ServerToken × List Char)) (lead : List Char) (st : ServersLoop),
      (∀ c ∈ lead, IsBlank c) → GapsOk items → (∀ it ∈ items, it.1.Wf ∧ it.1.render ≠ []) →
      (serversLoop ⟨fun _ _ => true, results⟩
          (lead ++ items.flatMap fun it => it.1.render ++ it.2) st).calls.map Prod.fst =
        st.calls.map Prod.fst ++ items.map fun it => it.1.server
  | [], lead, st, hlead, _, _ => by
    simp [serversLoop_of_none (nextToken_blank (by simpa using hlead))]
  | (t, gap) :: rest, lead, st, hlead, ⟨hgap, hlast, hrest⟩, hwf => by
    obtain ⟨ht, hne⟩ := hwf (t, gap) (List.mem_cons_self _ _)
    -- the gap is nonempty unless it ends the list
    have hend : gap ≠ [] ∨ rest.flatMap (fun it => it.1.render ++ it.2) = [] := by
      cases rest with
      | nil => exact .inr rfl
      | cons _ _ => exact .inl (hlast (List.cons_ne_nil _ _))
    have hr : ∀ c ∈ (gap ++ rest.flatMap fun it => it.1.render ++ it.2).head?, IsBlank c := by
      rcases hend with hg | hR
      · obtain ⟨g, gs, rfl⟩ := List.exists_cons_of_ne_nil hg
        simpa using hgap g (List.mem_cons_self _ _)
      · cases gap with
        | nil => simp [hR]
        | cons g gs => simpa using hgap g (List.mem_cons_self _ _)
    have htok := nextToken_render hlead hne (render_tokenChar ht) hr
    have hstep : serversStep ⟨fun _ _ => true, results⟩ st t.render =
        .next ⟨st.serverCount + 1,
          if results st.serverCount < 0 then st.serverSuccess else st.serverSuccess + 1,
          results st.serverCount, st.calls ++ [(t.server, results st.serverCount)]⟩ := by
      simp [serversStep, parseServer_render ht]
    rw [List.flatMap_cons, List.append_assoc, serversLoop_of_next htok hstep, drop_gap_append hend,
      serversLoop_render results rest (gap.drop 1) _
        (fun c hc => hgap c (List.mem_of_mem_drop hc)) hrest
        (fun it hit => hwf it (List.mem_cons_of_mem _ hit))]
    simp

/-- With every allocation succeeding, `vfs_gluster_set_volfile_servers` calls
`glfs_set_volfile_server` once per server of a rendered list, in list order,
with that server's arguments, whatever the calls return. -/
theorem setVolfileServers_render (results : Nat → Int) (lead : List Char)
    (items : List (ServerToken × List Char)) (hlead : ∀ c ∈ lead, IsBlank c)
    (hgaps : GapsOk items) (hwf : ∀ it ∈ items, it.1.Wf ∧ it.1.render ≠ []) :
    (vfsGlusterSetVolfileServers ⟨fun _ _ => true, results⟩
        ⟨renderServers lead items⟩).2.map Prod.fst = items.map fun it => it.1.server := by
  simpa [vfsGlusterSetVolfileServers, serversLoopInit] using
    serversLoop_render results items lead serversLoopInit hlead hgaps hwf

theorem setVolfileServers_render_three :
    (vfsGlusterSetVolfileServers ⟨fun _ _ => true, fun _ => 0⟩
        ⟨renderServers " ".toList
          [(.unix "/run/glusterd.socket".toList, " ".toList),
           (.ipv6 true "fe80::1".toList (some 24007), "\t".toList),
           (.hostname false "gluster1".toList none, [])]⟩).2.map Prod.fst =
      [⟨"unix", "/run/glusterd.socket", 0⟩, ⟨"tcp", "fe80::1", 24007⟩, ⟨"tcp", "gluster1", 0⟩] :=
  setVolfileServers_render _ _ _ (by decide) (by decide) (by decide)

/-- Without nonempty tokens the round trip fails: a bare empty host renders
to nothing, and no call is made for it. -/
theorem setVolfileServers_render_not_total :
    ¬∀ (results : Nat → Int) (lead : List Char) (items : List (ServerToken × List Char)),
      (∀ c ∈ lead, IsBlank c) → GapsOk items → (∀ it ∈ items, it.1.Wf) →
      (vfsGlusterSetVolfileServers ⟨fun _ _ => true, results⟩
          ⟨renderServers lead items⟩).2.map Prod.fst = items.map fun it => it.1.server := by
  intro h
  have hcalls := h (fun _ => 0) [] [(.hostname false [] none, [])] (by decide) (by decide)
    (by decide)
  have hempty : renderServers [] [(.hostname false [] none, [])] = [] := rfl
  have hend : nextToken volfileSeparators [] = none := rfl
  simp only [hempty, vfsGlusterSetVolfileServers, serversLoop_of_none hend] at hcalls
  exact absurd hcalls (by decide)

end GlusterVfs
