import Mathlib

/-!
# Scanning the `volfile_server` parameter

`vfs_gluster_set_volfile_servers` walks the `glusterfs:volfile_server` string
with two C library helpers that are not part of the module itself:

* `next_token_talloc` (Samba `lib/util`) — skip separators, then take one
  token, a maximal run of non-separators in which `"` toggles quoting and is
  dropped (`nextToken`);
* `index` and `atoi` (libc) — the first occurrence of a character
  (`splitAtChar`) and glibc's `(int) strtol(s, NULL, 10)` (`atoi`).

C strings are modelled as `List Char`: a string ends where the list ends, so
writing `'\0'` into a buffer becomes taking the prefix in front of it.

The one fact the caller's loop needs is that a token always consumes input
(`nextToken_length_lt`), which is what makes the loop terminate.
-/

namespace GlusterVfs

/-! ## `next_token_talloc` -/

/-- The token scan of `next_token_talloc`: copy characters up to the first
separator outside quotes, dropping every `"` (which toggles `quoted`). Returns
the token and the input left at the character that stopped the scan. -/
def tokenChars (sep : List Char) : Bool → List Char → List Char × List Char
  | _, [] => ([], [])
  | quoted, c :: cs =>
    if !quoted && sep.contains c then ([], c :: cs)
    else if c = '"' then tokenChars sep (!quoted) cs
    else
      let (tok, rest) := tokenChars sep quoted cs
      (c :: tok, rest)

/-- Modelled from the spec: `next_token_talloc(ctx, &ptr, &buff, sep)` of
Samba's `lib/util`, which the sources call but do not contain. It skips the
separators in front of a token and fails when nothing is left; otherwise it
returns the token (`tokenChars`) and moves `ptr` one character past the
separator that ended it (`*ptr = (*s) ? s+1 : s`). Its allocation of the token
buffer is the caller's `AllocSite.token`. -/
def nextToken (sep : List Char) (ptr : List Char) : Option (List Char × List Char) :=
  match ptr.dropWhile sep.contains with
  | [] => none
  | s@(_ :: _) =>
    let (tok, rest) := tokenChars sep false s
    some (tok, rest.drop 1)

theorem tokenChars_rest_length_le (sep : List Char) :
    ∀ (quoted : Bool) (s : List Char), (tokenChars sep quoted s).2.length ≤ s.length
  | _, [] => le_refl _
  | quoted, c :: cs => by
    have ih := fun q => tokenChars_rest_length_le sep q cs
    simp only [tokenChars]
    split
    · exact le_refl _
    · split
      · exact Nat.le_succ_of_le (ih _)
      · exact Nat.le_succ_of_le (ih quoted)

/-- Every token consumes input: the loop over `next_token_talloc` ends. -/
theorem nextToken_length_lt {sep ptr tok rest : List Char}
    (h : nextToken sep ptr = some (tok, rest)) : rest.length < ptr.length := by
  unfold nextToken at h
  split at h
  · cases h
  · rename_i s c cs hs
    simp only [Option.some.injEq, Prod.mk.injEq] at h
    obtain ⟨-, rfl⟩ := h
    have hdrop : (c :: cs).length ≤ ptr.length := hs ▸ (ptr.dropWhile_suffix _).length_le
    have hrest := tokenChars_rest_length_le sep false (c :: cs)
    simp only [List.length_drop, List.length_cons] at hdrop hrest ⊢
    omega

/-! ## `index` and `atoi` -/

/-- `index(s, c)`, with the write of `'\0'` over the match that the caller
makes: the text in front of the first `c` and the text after it, or `none`
when `c` does not occur. -/
def splitAtChar (c : Char) : List Char → Option (List Char × List Char)
  | [] => none
  | x :: xs =>
    if x = c then some ([], xs)
    else (splitAtChar c xs).map fun (before, after) => (x :: before, after)

/-- The characters `isspace` accepts in the C locale. -/
def isCSpace (c : Char) : Bool :=
  c = ' ' || c = '\t' || c = '\n' || c = '\x0b' || c = '\x0c' || c = '\r'

/-- The value of a run of decimal digits, most significant first. -/
def digitsValue (ds : List Char) : Nat :=
  ds.foldl (fun acc d => 10 * acc + (d.toNat - '0'.toNat)) 0

/-- `LONG_MIN` and `LONG_MAX` on an LP64 target. -/
def longMin : Int := -2 ^ 63
def longMax : Int := 2 ^ 63 - 1

/-- `INT_MAX`. -/
def intMax : Int := 2 ^ 31 - 1

/-- The sign `strtol` accepts in front of the digits: whether the value is
negated, and the text after the sign. -/
def strtolSign : List Char → Bool × List Char
  | '-' :: r => (true, r)
  | '+' :: r => (false, r)
  | s => (false, s)

/-- glibc's `atoi(s)`, that is `(int) strtol(s, NULL, 10)`: leading white
space, an optional sign, then the longest run of digits; `strtol` saturates at
`LONG_MIN`/`LONG_MAX` and the conversion to `int` keeps the low 32 bits. -/
def atoi (s : List Char) : Int :=
  let (neg, digits) := strtolSign (s.dropWhile isCSpace)
  let n : Int := digitsValue (digits.takeWhile Char.isDigit)
  (max longMin (min longMax (if neg then -n else n))).bmod (2 ^ 32)

/-! ## `atoi` reads back a decimal port -/

theorem digitChar_spec {d : Nat} (h : d < 10) :
    (Nat.digitChar d).isDigit ∧ (Nat.digitChar d).toNat - '0'.toNat = d := by
  match d, h with
  | 0, _ | 1, _ | 2, _ | 3, _ | 4, _ | 5, _ | 6, _ | 7, _ | 8, _ | 9, _ => exact ⟨rfl, rfl⟩

theorem toDigitsCore_append (b : Nat) :
    ∀ (fuel n : Nat) (ds : List Char),
      Nat.toDigitsCore b fuel n ds = Nat.toDigitsCore b fuel n [] ++ ds
  | 0, _, _ => rfl
  | fuel + 1, n, ds => by
    simp only [Nat.toDigitsCore]
    split
    · rfl
    · rw [toDigitsCore_append b fuel _ (_ :: ds), toDigitsCore_append b fuel _ [_]]
      simp

/-- With enough fuel, the digits of `n` are its decimal digits: all are
digits, and `digitsValue` reads `n` back. -/
theorem toDigitsCore_spec :
    ∀ (fuel n : Nat), n < fuel →
      (∀ c ∈ Nat.toDigitsCore 10 fuel n [], c.isDigit) ∧
        digitsValue (Nat.toDigitsCore 10 fuel n []) = n
  | 0, _, h => absurd h (Nat.not_lt_zero _)
  | fuel + 1, n, h => by
    obtain ⟨hdigit, hval⟩ := digitChar_spec (Nat.mod_lt n (by decide : 10 > 0))
    simp only [Nat.toDigitsCore]
    split
    · refine ⟨by simpa using hdigit, ?_⟩
      simp only [digitsValue, List.foldl_cons, List.foldl_nil, hval]
      omega
    · rename_i hdiv
      obtain ⟨ihd, ihv⟩ := toDigitsCore_spec fuel (n / 10) (by omega)
      rw [toDigitsCore_append]
      refine ⟨?_, ?_⟩
      · intro c hc
        rcases List.mem_append.mp hc with hc | hc
        · exact ihd c hc
        · simpa [List.mem_singleton.mp hc] using hdigit
      · simp only [digitsValue, List.foldl_append, List.foldl_cons, List.foldl_nil] at ihv ⊢
        rw [ihv, hval]
        omega

theorem toDigits_ne_nil (n : Nat) : Nat.toDigits 10 n ≠ [] := by
  simp only [Nat.toDigits, Nat.toDigitsCore]
  split <;> simp [toDigitsCore_append _ _ _ [_]]

theorem isCSpace_eq_false_of_isDigit {c : Char} (h : c.isDigit) : isCSpace c = false := by
  cases hs : isCSpace c
  · rfl
  · simp only [isCSpace, Bool.or_eq_true, decide_eq_true_eq] at hs
    rcases hs with (((((rfl | rfl) | rfl) | rfl) | rfl) | rfl) <;> exact absurd h (by decide)

/-- `int` conversion of a value already in `0..INT_MAX` changes nothing. -/
theorem bmod_of_intMax {v : Int} (h0 : 0 ≤ v) (h : v ≤ intMax) :
    (max longMin (min longMax v)).bmod (2 ^ 32) = v := by
  have hv : max longMin (min longMax v) = v := by
    simp only [longMin, longMax, intMax] at h ⊢
    omega
  rw [hv, Int.bmod, Int.emod_eq_of_lt h0 (by simp only [intMax] at h; omega)]
  simp only [intMax] at h
  split <;> omega

/-- `atoi` of the decimal rendering of a port in `0..INT_MAX` is the port. -/
theorem atoi_toDigits {n : Nat} (h : (n : Int) ≤ intMax) : atoi (Nat.toDigits 10 n) = n := by
  obtain ⟨hdigit, hval⟩ := toDigitsCore_spec (n + 1) n (Nat.lt_succ_self n)
  obtain ⟨c, cs, hcs⟩ := List.exists_cons_of_ne_nil (toDigits_ne_nil n)
  simp only [Nat.toDigits] at hcs
  rw [hcs] at hdigit hval
  have hc : c.isDigit := hdigit c (List.mem_cons_self _ _)
  have htake : (c :: cs).takeWhile Char.isDigit = c :: cs := List.takeWhile_eq_self_iff.mpr hdigit
  have hsign : strtolSign (c :: cs) = (false, c :: cs) :=
    strtolSign.eq_3 _ (fun r h' => absurd hc (by cases h'; decide))
      (fun r h' => absurd hc (by cases h'; decide))
  simp only [atoi, Nat.toDigits, hcs, List.dropWhile_cons, isCSpace_eq_false_of_isDigit hc,
    Bool.false_eq_true, ↓reduceIte, hsign, htake, hval]
  exact bmod_of_intMax (Int.ofNat_nonneg n) h

end GlusterVfs
