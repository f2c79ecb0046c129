import ResponseCheck.Proofs.Text.Blank
import ResponseCheck.Proofs.Text.LetterCase
import ResponseCheck.Settings

/-!
# URLs of prepared requests

A relative URL is put behind the base of the settings with one slash between them, however many
there were on either side. A URL with a scheme is left alone. The slashes of a scheme are never
those where a URL is joined, so a joined URL has a scheme exactly if its base has one.
-/

namespace ResponseCheck.Settings

open Text (asciiLower dropEndWhile)

variable {settings : Settings} {base stem url tail : String}

/-! ### Schemes -/

/-- Whether a URL starts with `http://` or `https://`, in any letter case. -/
def HasScheme (url : String) : Prop :=
  ∃ start rest, url = start ++ rest ∧
    (Text.Recased "http://" start ∨ Text.Recased "https://" start)

/-- A URL that is made small starts with a small text if the URL starts with it in some letter
case. -/
theorem prefix_asciiLower_iff {small : String} (hsmall : asciiLower small = small) :
    small.toList <+: (asciiLower url).toList ↔
      ∃ start rest, url = start ++ rest ∧ Text.Recased small start := by
  simp only [Text.recased_iff_asciiLower_eq, hsmall]
  constructor
  · rintro ⟨after, hafter⟩
    rw [Text.toList_asciiLower, eq_comm, List.map_eq_append_iff] at hafter
    obtain ⟨start, rest, hurl, hstart, -⟩ := hafter
    refine ⟨.ofList start, .ofList rest, ?_, ?_⟩
    · rw [← String.ofList_append, ← hurl, String.ofList_toList]
    · rw [← String.toList_inj, Text.toList_asciiLower, String.toList_ofList, hstart]
  · rintro ⟨start, rest, rfl, rfl⟩
    rw [Text.toList_asciiLower, Text.toList_asciiLower, String.toList_append, List.map_append]
    exact List.prefix_append ..

/-- The absolute URLs are those with a scheme. -/
theorem isAbsolute_iff : isAbsolute url = true ↔ HasScheme url := by
  have hhttp : asciiLower "http://" = "http://" := by decide +kernel
  have hhttps : asciiLower "https://" = "https://" := by decide +kernel
  simp only [isAbsolute, Bool.or_eq_true, List.isPrefixOf_iff_prefix, prefix_asciiLower_iff hhttp,
    prefix_asciiLower_iff hhttps, HasScheme, and_or_left, exists_or]

instance (url : String) : Decidable (HasScheme url) := decidable_of_iff _ isAbsolute_iff

/-- A scheme starts with one letter. -/
theorem HasScheme.head?_asciiLower (h : HasScheme url) :
    (asciiLower url).toList.head? = some 'h' := by
  obtain ⟨start, rest, rfl, hstart⟩ := h
  have hfirst : (asciiLower start).toList.head? = some 'h' := by
    rcases hstart with hhttp | hhttps
    · rw [← hhttp.asciiLower_eq]
      decide +kernel
    · rw [← hhttps.asciiLower_eq]
      decide +kernel
  rw [Text.toList_asciiLower, String.toList_append, List.map_append, ← Text.toList_asciiLower,
    List.head?_append, hfirst, Option.some_or]

/-! ### Slashes at the ends -/

section Runs

variable {c : Char} {cs : List Char}

theorem dropWhile_replicate_append (hhead : cs.head? ≠ some c) (n : Nat) :
    (List.replicate n c ++ cs).dropWhile (· == c) = cs := by
  induction n with
  | zero =>
    cases cs with
    | nil => rfl
    | cons d cs =>
      have hd : d ≠ c := by simpa using hhead
      simp [hd]
  | succ n ih => simpa [List.replicate_succ] using ih

theorem exists_eq_replicate_append (c : Char) (cs : List Char) :
    ∃ n rest, cs = List.replicate n c ++ rest ∧ rest.head? ≠ some c := by
  induction cs with
  | nil => exact ⟨0, [], rfl, nofun⟩
  | cons d cs ih =>
    by_cases hd : d = c
    · obtain ⟨n, rest, rfl, hrest⟩ := ih
      exact ⟨n + 1, rest, by rw [hd, List.replicate_succ, List.cons_append], hrest⟩
    · exact ⟨0, d :: cs, rfl, by simpa using hd⟩

end Runs

/-- A text of slashes alone. -/
def slashes (n : Nat) : String := .ofList (List.replicate n '/')

/-- What is left of a base without the slashes at its end. -/
def IsStem (stem base : String) : Prop :=
  (∃ n, base = stem ++ slashes n) ∧ stem.toList.getLast? ≠ some '/'

/-- What is left of a URL without the slashes at its start. -/
def IsTail (tail url : String) : Prop :=
  (∃ n, url = slashes n ++ tail) ∧ tail.toList.head? ≠ some '/'

theorem toList_slashes (n : Nat) : (slashes n).toList = List.replicate n '/' :=
  String.toList_ofList

theorem slashes_append_slashes (m n : Nat) : slashes m ++ slashes n = slashes (m + n) := by
  rw [← String.toList_inj, String.toList_append, toList_slashes, toList_slashes, toList_slashes,
    List.replicate_append_replicate]

theorem IsStem.append_slashes (h : IsStem stem base) (n : Nat) :
    IsStem stem (base ++ slashes n) := by
  obtain ⟨⟨m, rfl⟩, hlast⟩ := h
  exact ⟨⟨m + n, by rw [String.append_assoc, slashes_append_slashes]⟩, hlast⟩

theorem IsTail.slashes_append (h : IsTail tail url) (n : Nat) :
    IsTail tail (slashes n ++ url) := by
  obtain ⟨⟨m, rfl⟩, hhead⟩ := h
  exact ⟨⟨n + m, by rw [← String.append_assoc, slashes_append_slashes]⟩, hhead⟩

theorem IsTail.toList_eq (h : IsTail tail url) :
    url.toList.dropWhile (· == '/') = tail.toList := by
  obtain ⟨⟨n, rfl⟩, hhead⟩ := h
  rw [String.toList_append, toList_slashes, dropWhile_replicate_append hhead]

theorem IsStem.toList_eq (h : IsStem stem base) :
    dropEndWhile (· == '/') base.toList = stem.toList := by
  obtain ⟨⟨n, rfl⟩, hlast⟩ := h
  rw [← List.head?_reverse] at hlast
  rw [Text.dropEndWhile_eq, List.rdropWhile, String.toList_append, toList_slashes,
    List.reverse_append, List.reverse_replicate, dropWhile_replicate_append hlast,
    List.reverse_reverse]

/-- Every base has one stem. -/
theorem existsUnique_isStem (base : String) : ∃! stem, IsStem stem base := by
  -- The slashes at the end are those at the start of the reversed list.
  obtain ⟨n, rest, hrest, hhead⟩ := exists_eq_replicate_append '/' base.toList.reverse
  have hstem : IsStem (.ofList rest.reverse) base := by
    refine ⟨⟨n, ?_⟩, by rwa [String.toList_ofList, List.getLast?_reverse]⟩
    rw [← String.toList_inj, String.toList_append, String.toList_ofList, toList_slashes,
      List.reverse_eq_iff.mp hrest, List.reverse_append, List.reverse_replicate]
  refine ⟨.ofList rest.reverse, hstem, fun stem h => ?_⟩
  rw [← String.toList_inj, ← h.toList_eq, hstem.toList_eq]

/-- Every URL has one tail. -/
theorem existsUnique_isTail (url : String) : ∃! tail, IsTail tail url := by
  obtain ⟨n, rest, hrest, hhead⟩ := exists_eq_replicate_append '/' url.toList
  have htail : IsTail (.ofList rest) url := by
    refine ⟨⟨n, ?_⟩, by rwa [String.toList_ofList]⟩
    rw [← String.toList_inj, hrest, String.toList_append, toList_slashes, String.toList_ofList]
  refine ⟨.ofList rest, htail, fun tail h => ?_⟩
  rw [← String.toList_inj, ← h.toList_eq, htail.toList_eq]

/-! ### Joining -/

/-- A base and a URL are joined by one slash. -/
theorem joinUrl_eq (hstem : IsStem stem base) (htail : IsTail tail url) :
    joinUrl base url = stem ++ "/" ++ tail := by
  rw [joinUrl, hstem.toList_eq, htail.toList_eq, ← String.toList_inj, String.toList_ofList,
    String.toList_append, String.toList_append]
  simp

/-- A word with two separators behind it, like a scheme, does not come about where lists are joined
by one separator. -/
theorem prefix_append_cons_iff {c : Char} {word before after : List Char} (hword : c ∉ word)
    (hbefore : before.getLast? ≠ some c) (hafter : after.head? ≠ some c) :
    word ++ [c, c] <+: before ++ c :: after ↔ word ++ [c, c] <+: before := by
  induction word generalizing before with
  | nil =>
    cases before with
    | nil =>
      cases after with
      | nil => simp
      | cons d after =>
        -- What stands behind the separator in between is none.
        have hd : c ≠ d := by simpa [eq_comm] using hafter
        simp [hd]
    | cons d before =>
      cases before with
      | nil =>
        -- What stands in front of the separator in between is none.
        have hd : c ≠ d := by simpa [eq_comm] using hbefore
        simp [hd]
      | cons e before => simp
  | cons d word ih =>
    rw [List.mem_cons, not_or] at hword
    obtain ⟨hd, hword⟩ := hword
    cases before with
    | nil => simp [Ne.symm hd]
    | cons e before =>
      have hrest : before.getLast? ≠ some c := fun hlast =>
        hbefore (by rw [List.getLast?_cons, hlast, Option.getD_some])
      simp only [List.cons_append, List.cons_prefix_cons, ih hword hrest]

/-- A joined URL has a scheme exactly if its base has one. -/
theorem hasScheme_joined_iff (hstem : stem.toList.getLast? ≠ some '/')
    (htail : tail.toList.head? ≠ some '/') :
    HasScheme (stem ++ "/" ++ tail) ↔ HasScheme stem := by
  have hslash (c : Char) : c.toLower = '/' ↔ c = '/' := Text.toLower_eq_iff rfl
  have hbefore : (asciiLower stem).toList.getLast? ≠ some '/' := by
    simpa [Text.toList_asciiLower, hslash] using hstem
  have hafter : (asciiLower tail).toList.head? ≠ some '/' := by
    simpa [Text.toList_asciiLower, hslash] using htail
  have hjoined : (asciiLower (stem ++ "/" ++ tail)).toList =
      (asciiLower stem).toList ++ '/' :: (asciiLower tail).toList := by
    simp [Text.toList_asciiLower]
  -- Both schemes are words with two slashes behind them.
  have hhttp : "http://".toList = "http:".toList ++ ['/', '/'] := rfl
  have hhttps : "https://".toList = "https:".toList ++ ['/', '/'] := rfl
  simp only [← isAbsolute_iff, isAbsolute, Bool.or_eq_true, List.isPrefixOf_iff_prefix, hjoined,
    hhttp, hhttps]
  exact or_congr (prefix_append_cons_iff (by decide) hbefore hafter)
    (prefix_append_cons_iff (by decide) hbefore hafter)

/-! ### Resolved URLs -/

/-- Slashes in front of a URL make no scheme. -/
theorem not_hasScheme_slashes_append (h : ¬ HasScheme url) (n : Nat) :
    ¬ HasScheme (slashes n ++ url) := by
  cases n with
  | zero => rwa [show slashes 0 = "" from rfl, String.empty_append]
  | succ n =>
    intro hscheme
    have hfirst := hscheme.head?_asciiLower
    rw [Text.toList_asciiLower, String.toList_append, toList_slashes, List.replicate_succ] at hfirst
    exact absurd hfirst (by simp)

theorem resolveUrl_of_hasScheme (h : HasScheme url) : settings.resolveUrl url = url := by
  rw [resolveUrl, if_pos (isAbsolute_iff.mpr h)]

/-- A URL without a scheme is joined to the base. -/
theorem resolveUrl_of_not_hasScheme (hbase : settings.baseUrl = some base)
    (hstem : IsStem stem base) (htail : IsTail tail url) (h : ¬ HasScheme url) :
    settings.resolveUrl url = stem ++ "/" ++ tail := by
  rw [resolveUrl, if_neg (isAbsolute_iff.not.mpr h), hbase]
  exact joinUrl_eq hstem htail

/-- A joined URL has the tail of the URL that was joined only if there was nothing in the stem. -/
theorem isTail_joined_iff (hstem : stem.toList.getLast? ≠ some '/')
    (htail : tail.toList.head? ≠ some '/') :
    IsTail tail (stem ++ "/" ++ tail) ↔ stem = "" := by
  constructor
  · rintro ⟨⟨n, hn⟩, -⟩
    rw [String.append_left_inj, ← String.toList_inj, String.toList_append, toList_slashes] at hn
    have hslash {c : Char} (hc : c ∈ stem.toList) : c = '/' :=
      List.eq_of_mem_replicate (hn ▸ List.mem_append_left _ hc)
    -- A stem that consists of slashes does not end with one, so it has none.
    cases hlast : stem.toList.getLast? with
    | none => exact String.toList_inj.mp (List.getLast?_eq_none_iff.mp hlast)
    | some c =>
      have hc : c = '/' := hslash (List.mem_of_getLast? hlast)
      exact absurd (hc ▸ hlast) hstem
  · rintro rfl
    exact ⟨⟨1, rfl⟩, htail⟩

/-- A resolved URL stays as it is if it was given with a scheme, if it has one from its base, or if
it was joined to nothing but a slash. -/
theorem resolveUrl_resolveUrl_eq_iff (hbase : settings.baseUrl = some base)
    (hstem : IsStem stem base) (htail : IsTail tail url) :
    settings.resolveUrl (settings.resolveUrl url) = settings.resolveUrl url ↔
      HasScheme url ∨ HasScheme stem ∨ stem = "" := by
  by_cases hurl : HasScheme url
  · simp [resolveUrl_of_hasScheme hurl, hurl]
  · rw [resolveUrl_of_not_hasScheme hbase hstem htail hurl, or_iff_right hurl]
    have hjoined := hasScheme_joined_iff hstem.2 htail.2
    by_cases hscheme : HasScheme stem
    · exact iff_of_true (resolveUrl_of_hasScheme (hjoined.mpr hscheme)) (.inl hscheme)
    · -- It is joined once more, to what is left of it without slashes at its start.
      obtain ⟨again, hagain, hunique⟩ := existsUnique_isTail (stem ++ "/" ++ tail)
      rw [resolveUrl_of_not_hasScheme hbase hstem hagain (hjoined.not.mpr hscheme),
        or_iff_right hscheme, ← isTail_joined_iff hstem.2 htail.2, String.append_right_inj]
      exact ⟨fun h => h ▸ hagain, fun h => (hunique tail h).symm⟩

/-- **Slashes between base and URL are of no account.** A URL with a scheme stays as it is under any
settings. Any other one becomes the stem of the base, one slash and the tail of the URL, and more
slashes on either side change nothing, neither in the URL nor in the rest of the request. To resolve
a URL once more changes nothing if the URL or the stem has a scheme; else it does, unless there is
nothing in the stem. -/
theorem resolveUrl_ignores_slashes (settings : Settings) (base url : String) :
    let joining (base : String) : Settings := { settings with baseUrl := some base }
    (HasScheme url → settings.resolveUrl url = url) ∧
    (∃! stem, IsStem stem base) ∧ (∃! tail, IsTail tail url) ∧
    ∀ stem tail, IsStem stem base → IsTail tail url →
      (¬ HasScheme url →
        (joining base).resolveUrl url = stem ++ "/" ++ tail ∧
        ∀ m n,
          (joining (base ++ slashes m)).resolveUrl (slashes n ++ url) =
            (joining base).resolveUrl url ∧
          ∀ method options,
            (joining (base ++ slashes m)).prepare method (slashes n ++ url) options =
              (joining base).prepare method url options) ∧
      ((joining base).resolveUrl ((joining base).resolveUrl url) = (joining base).resolveUrl url ↔
        HasScheme url ∨ HasScheme stem ∨ stem = "") := by
  intro joining
  refine ⟨resolveUrl_of_hasScheme, existsUnique_isStem base, existsUnique_isTail url,
    fun stem tail hstem htail => ⟨fun hurl => ?_, resolveUrl_resolveUrl_eq_iff rfl hstem htail⟩⟩
  have hjoined : (joining base).resolveUrl url = stem ++ "/" ++ tail :=
    resolveUrl_of_not_hasScheme rfl hstem htail hurl
  refine ⟨hjoined, fun m n => ?_⟩
  have hmore : (joining (base ++ slashes m)).resolveUrl (slashes n ++ url) =
      (joining base).resolveUrl url := by
    rw [hjoined]
    exact resolveUrl_of_not_hasScheme rfl (hstem.append_slashes m) (htail.slashes_append n)
      (not_hasScheme_slashes_append hurl n)
  refine ⟨hmore, fun method options => ?_⟩
  -- Nothing else in a request is taken from the base.
  unfold prepare
  rw [hmore]
  rfl

/-- A URL with a scheme behind slashes does not start with one. It is joined to a base with a scheme
in capitals, and is left alone from then on; but to a base that is nothing but a scheme it is joined
again and again. -/
theorem resolveUrl_ignores_slashes_of_schemes :
    HasScheme "hTTps://H" ∧
    ({ baseUrl := some "HTTP://h/" } : Settings).resolveUrl "hTTps://H" = "hTTps://H" ∧
    IsStem "HTTP://h" "HTTP://h/" ∧ IsStem "http:" "http://" ∧ IsTail "http://x" "//http://x" ∧
    ¬ HasScheme "//http://x" ∧ HasScheme "HTTP://h" ∧ ¬ HasScheme "http:" ∧
    ({ baseUrl := some ("HTTP://h/" ++ slashes 2) } : Settings).resolveUrl
      (slashes 1 ++ "//http://x") = "HTTP://h/http://x" ∧
    ({ baseUrl := some "HTTP://h/" } : Settings).resolveUrl "HTTP://h/http://x" =
      "HTTP://h/http://x" ∧
    ({ baseUrl := some "http://" } : Settings).resolveUrl "http:/http://x" ≠ "http:/http://x" := by
  have habsolute : HasScheme "hTTps://H" := by decide +kernel
  have hstem : IsStem "HTTP://h" "HTTP://h/" := ⟨⟨1, rfl⟩, by decide⟩
  have hbare : IsStem "http:" "http://" := ⟨⟨2, rfl⟩, by decide⟩
  have htail : IsTail "http://x" "//http://x" := ⟨⟨2, rfl⟩, by decide⟩
  have hurl : ¬ HasScheme "//http://x" := by decide +kernel
  have hbase : HasScheme "HTTP://h" := by decide +kernel
  have hcolon : ¬ HasScheme "http:" := by decide +kernel
  obtain ⟨hkept, -⟩ := resolveUrl_ignores_slashes { baseUrl := some "HTTP://h/" } "" "hTTps://H"
  obtain ⟨-, -, -, hresolve⟩ := resolveUrl_ignores_slashes {} "HTTP://h/" "//http://x"
  obtain ⟨hrelative, hagain⟩ := hresolve _ _ hstem htail
  obtain ⟨hjoined, hmore⟩ := hrelative hurl
  obtain ⟨-, -, -, hresolveBare⟩ := resolveUrl_ignores_slashes {} "http://" "//http://x"
  obtain ⟨hrelativeBare, hagainBare⟩ := hresolveBare _ _ hbare htail
  obtain ⟨hjoinedBare, -⟩ := hrelativeBare hurl
  rw [hjoined] at hagain
  rw [hjoinedBare] at hagainBare
  refine ⟨habsolute, hkept habsolute, hstem, hbare, htail, hurl, hbase, hcolon, ?_, ?_, ?_⟩
  · exact (hmore 2 1).1.trans hjoined
  · exact hagain.mpr (.inr (.inl hbase))
  · exact hagainBare.not.mpr (by simp [hurl, hcolon])

end ResponseCheck.Settings
