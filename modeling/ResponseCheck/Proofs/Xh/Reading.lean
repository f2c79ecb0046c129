import ResponseCheck.Proofs.Text.Unsigned
import ResponseCheck.Proofs.Xh.Arguments

/-!
# Arguments of the tool are read back

What an argument is for can be told from its place, whatever the texts look like that a request
brings along. The flags in front of the method start with a dash, and names of methods do not; the
URL stands right behind the method; headers are spelled with a colon, and the flag in front of the
payload is not. So requests with the same arguments are the same, but for names of headers with a
colon: it is not told where such a name ends.
-/

namespace ResponseCheck.Xh

open Http (Headers Method Request RequestOptions)

/-- What arguments tell of a request: all of it, but of headers only how they are spelled. -/
structure Call where
  method : Method
  url : String
  headers : List String
  payload : Option String
  proxy : Option String
  followRedirects : Bool
  timeoutSeconds : Option Nat
deriving DecidableEq, Repr

/-- The headers of a request as they are spelled, in their order. -/
def headerTexts (request : Request) : List String :=
  request.headers.entries.map fun (name, value) => name ++ ":" ++ value

/-- What is told of a request. -/
def callOf (request : Request) : Call where
  method := request.method
  url := request.url
  headers := headerTexts request
  payload := request.payload
  proxy := request.proxy
  followRedirects := request.followRedirects
  timeoutSeconds := request.timeoutSeconds

/-- The value of a flag in an argument that starts with the flag. -/
def valueOf? (flag argument : String) : Option String :=
  (argument.toList.dropPrefix? flag.toList).map String.ofList

/-- The call that a list of arguments stands for. -/
def Call.read? (arguments : List String) : Option Call :=
  let options := arguments.takeWhile (decide <| IsDashed ·)
  match arguments.dropWhile (decide <| IsDashed ·) with
  | name :: url :: rest => do
    let method ← Method.ofName? name
    return {
      method
      url
      -- Behind the URL, the flag of a payload is the first argument that is no header.
      headers := rest.takeWhile (· != "--raw")
      payload := (rest.dropWhile (· != "--raw"))[1]?
      proxy := options.findSome? (valueOf? "--proxy=all:")
      followRedirects := options.contains "--follow"
      timeoutSeconds :=
        (options.findSome? (valueOf? "--timeout=")).bind fun text => Text.decimal? text.toList }
  | _ => none

variable {request : Request} {argument : String}

theorem arguments_eq (request : Request) :
    arguments request =
      flags request ++ request.method.name :: request.url ::
        (headerTexts request ++ request.payload.toList.flatMap (["--raw", ·])) := by
  simp [arguments, flags, headerTexts]

/-! ### Flags -/

theorem isDashed_of_mem_flags (h : argument ∈ flags request) : IsDashed argument := by
  have hdash {start text : String} (hstart : IsDashed start) : IsDashed (start ++ text) := by
    unfold IsDashed at hstart ⊢
    rw [String.toList_append, List.head?_append, hstart]
    rfl
  simp only [flags, List.mem_append] at h
  rcases h with ((hfixed | hfollow) | hproxy) | htimeout
  · have hall : ∀ flag ∈ ["--ignore-stdin", "--pretty=none", "--print=hb"], IsDashed flag := by
      decide
    exact hall argument hfixed
  · split at hfollow
    · rw [List.mem_singleton.mp hfollow]
      decide
    · cases hfollow
  · obtain ⟨proxy, -, rfl⟩ := List.mem_map.mp hproxy
    exact hdash (by decide)
  · obtain ⟨seconds, -, rfl⟩ := List.mem_map.mp htimeout
    exact hdash (by decide)

theorem not_isDashed_name (method : Method) : ¬ IsDashed method.name := by
  unfold IsDashed
  cases method <;> decide

theorem valueOf?_append (flag value : String) : valueOf? flag (flag ++ value) = some value := by
  have hdrop : (flag ++ value).toList.dropPrefix? flag.toList = some value.toList := by
    rw [List.dropPrefix?_eq_some_iff]
    exact ⟨flag.toList, String.toList_append, BEq.refl _⟩
  rw [valueOf?, hdrop, Option.map_some, String.ofList_toList]

/-- A flag has no value in an argument that starts in another way. -/
theorem valueOf?_append_eq_none {flag start : String} (h : ¬ flag.toList <+: start.toList)
    (h' : ¬ start.toList <+: flag.toList) (rest : String) : valueOf? flag (start ++ rest) = none := by
  rw [valueOf?, Option.map_eq_none_iff, Option.eq_none_iff_forall_ne_some]
  intro value hvalue
  obtain ⟨mark, hsplit, hmark⟩ := List.dropPrefix?_eq_some_iff.mp hvalue
  rw [beq_iff_eq] at hmark
  subst hmark
  have hflag : flag.toList <+: start.toList ++ rest.toList := by
    rw [← String.toList_append]
    exact ⟨value, hsplit.symm⟩
  rcases List.prefix_or_prefix_of_prefix hflag (List.prefix_append _ _) with hlt | hlt
  · exact h hlt
  · exact h' hlt

theorem append_ne_of_not_prefix {start word : String} (h : ¬ start.toList <+: word.toList)
    (rest : String) : start ++ rest ≠ word := by
  rintro rfl
  rw [String.toList_append] at h
  exact h (List.prefix_append _ _)

theorem flags_eq (request : Request) :
    flags request = ["--ignore-stdin", "--pretty=none", "--print=hb"] ++
      (if request.followRedirects then ["--follow"] else []) ++
      request.proxy.toList.map ("--proxy=all:" ++ ·) ++
      request.timeoutSeconds.toList.map ("--timeout=" ++ ·.repr) := rfl

theorem findSome?_proxy_flags (request : Request) :
    (flags request).findSome? (valueOf? "--proxy=all:") = request.proxy := by
  have hfixed : ["--ignore-stdin", "--pretty=none", "--print=hb"].findSome?
      (valueOf? "--proxy=all:") = none := by decide
  have hfollow : (if request.followRedirects then ["--follow"] else []).findSome?
      (valueOf? "--proxy=all:") = none := by
    split <;> decide
  have htimeout (text : String) : valueOf? "--proxy=all:" ("--timeout=" ++ text) = none :=
    valueOf?_append_eq_none (by decide) (by decide) text
  rw [flags_eq, List.findSome?_append, List.findSome?_append, List.findSome?_append, hfixed,
    hfollow]
  cases request.proxy <;> cases request.timeoutSeconds <;> simp [valueOf?_append, htimeout]

theorem findSome?_timeout_flags (request : Request) :
    (flags request).findSome? (valueOf? "--timeout=") = request.timeoutSeconds.map Nat.repr := by
  have hfixed : ["--ignore-stdin", "--pretty=none", "--print=hb"].findSome?
      (valueOf? "--timeout=") = none := by decide
  have hfollow : (if request.followRedirects then ["--follow"] else []).findSome?
      (valueOf? "--timeout=") = none := by
    split <;> decide
  have hproxy (text : String) : valueOf? "--timeout=" ("--proxy=all:" ++ text) = none :=
    valueOf?_append_eq_none (by decide) (by decide) text
  rw [flags_eq, List.findSome?_append, List.findSome?_append, List.findSome?_append, hfixed,
    hfollow]
  cases request.proxy <;> cases request.timeoutSeconds <;> simp [valueOf?_append, hproxy]

theorem follow_mem_flags_iff : "--follow" ∈ flags request ↔ request.followRedirects = true := by
  have hproxy (text : String) : "--proxy=all:" ++ text ≠ "--follow" :=
    append_ne_of_not_prefix (by decide) text
  have htimeout (text : String) : "--timeout=" ++ text ≠ "--follow" :=
    append_ne_of_not_prefix (by decide) text
  simp [flags_eq, hproxy, htimeout]

/-! ### Headers and the payload -/

/-- No header is spelled like the flag of a payload, which has no colon. -/
theorem ne_raw_of_mem_headerTexts (h : argument ∈ headerTexts request) : argument ≠ "--raw" := by
  obtain ⟨⟨name, value⟩, -, rfl⟩ := List.mem_map.mp h
  intro heq
  have hchars : name.toList ++ ':' :: value.toList = "--raw".toList := by
    simpa using congrArg String.toList heq
  have hcolon : ':' ∈ "--raw".toList := hchars ▸ List.mem_append_right _ List.mem_cons_self
  exact absurd hcolon (by decide)

theorem ofName?_name (method : Method) : Method.ofName? method.name = some method := by
  cases method <;> decide

/-- The arguments for a request are read back. -/
theorem read?_arguments (request : Request) :
    Call.read? (arguments request) = some (callOf request) := by
  have hflags : ∀ argument ∈ flags request, decide (IsDashed argument) = true :=
    fun _ h => decide_eq_true (isDashed_of_mem_flags h)
  have hname : decide (IsDashed request.method.name) = false :=
    decide_eq_false (not_isDashed_name _)
  have hheaders : ∀ argument ∈ headerTexts request, (argument != "--raw") = true :=
    fun _ h => bne_iff_ne.mpr (ne_raw_of_mem_headerTexts h)
  have hfollow : (flags request).contains "--follow" = request.followRedirects := by
    rw [Bool.eq_iff_iff, List.contains_iff_mem, follow_mem_flags_iff]
  have htimeout : (request.timeoutSeconds.map Nat.repr).bind
      (fun text => Text.decimal? text.toList) = request.timeoutSeconds := by
    cases request.timeoutSeconds with
    | none => rfl
    | some seconds => simp [Text.decimal?_toDigits]
  -- The method is the first argument without a dash, wherever there are flags.
  rw [arguments_eq, Call.read?, List.takeWhile_append_of_pos hflags,
    List.dropWhile_append_of_pos hflags, List.takeWhile_cons_of_neg (by simp [hname]),
    List.dropWhile_cons_of_neg (by simp [hname]), List.append_nil]
  simp only [ofName?_name, List.takeWhile_append_of_pos hheaders,
    List.dropWhile_append_of_pos hheaders, findSome?_proxy_flags, findSome?_timeout_flags, hfollow,
    htimeout]
  cases hpayload : request.payload <;> simp [callOf, hpayload]

/-! ### Requests with the same arguments -/

/-- The name and the value of a header whose name has no colon. -/
def readHeader? (text : String) : Option (String × String) :=
  (Text.splitOnce ':' text.toList).map fun (name, value) => (String.ofList name, String.ofList value)

theorem readHeader?_append {name value : String} (hname : ':' ∉ name.toList) :
    readHeader? (name ++ ":" ++ value) = some (name, value) := by
  have hchars : (name ++ ":" ++ value).toList = name.toList ++ ':' :: value.toList := by simp
  rw [readHeader?, hchars, Text.splitOnce_append_cons hname]
  simp

/-- Headers whose names have no colon are read back. -/
theorem map_readHeader?_headerTexts
    (hnames : ∀ entry ∈ request.headers.entries, ':' ∉ entry.1.toList) :
    (headerTexts request).map readHeader? = request.headers.entries.map some := by
  rw [headerTexts, List.map_map]
  refine List.map_congr_left fun entry hmem => ?_
  obtain ⟨name, value⟩ := entry
  exact readHeader?_append (hnames _ hmem)

theorem headers_eq_of_headerTexts_eq {r s : Request} (h : headerTexts r = headerTexts s)
    (hr : ∀ entry ∈ r.headers.entries, ':' ∉ entry.1.toList)
    (hs : ∀ entry ∈ s.headers.entries, ':' ∉ entry.1.toList) : r.headers = s.headers := by
  have hsome : r.headers.entries.map some = s.headers.entries.map some := by
    rw [← map_readHeader?_headerTexts hr, ← map_readHeader?_headerTexts hs, h]
  have hentries : r.headers.entries = s.headers.entries :=
    List.map_injective_iff.mpr (Option.some_injective _) hsome
  cases hheaders : r.headers
  cases hheaders' : s.headers
  rw [hheaders, hheaders'] at hentries
  congr

/-- **Arguments determine the request.** Two requests that come to the same arguments have the same
method, URL, proxy, handling of redirections, time limit and payload, and their headers are spelled
the same, in the same order. If no name of a header has a colon, their headers are the same. Nothing
is asked of the texts that they are made of. -/
theorem arguments_determine_request {r s : Request} (h : arguments r = arguments s) :
    r.method = s.method ∧ r.url = s.url ∧ r.proxy = s.proxy ∧
      r.followRedirects = s.followRedirects ∧ r.timeoutSeconds = s.timeoutSeconds ∧
      r.payload = s.payload ∧ headerTexts r = headerTexts s ∧
      ((∀ entry ∈ r.headers.entries ++ s.headers.entries, ':' ∉ entry.1.toList) →
        r.headers = s.headers) := by
  have hcall : callOf r = callOf s := by
    apply Option.some.inj
    rw [← read?_arguments r, ← read?_arguments s, h]
  obtain ⟨hmethod, hurl, hheaders, hpayload, hproxy, hfollow, htimeout⟩ :=
    (Call.mk.injEq ..).mp hcall
  refine ⟨hmethod, hurl, hproxy, hfollow, htimeout, hpayload, hheaders, fun hnames => ?_⟩
  obtain ⟨hr, hs⟩ := List.forall_mem_append.mp hnames
  exact headers_eq_of_headerTexts_eq hheaders hr hs

/-- A header of the settings or of the request, and texts that look like flags and methods. -/
theorem arguments_determine_request_of_flags :
    let common : Settings :=
      { headers := .ofList [("X", "GET")], proxy := some "--follow", timeoutSeconds := some 0 }
    let r := common.prepare .put "--raw" { body := some (.raw "--raw") }
    let s := { common with headers := .empty }.prepare .put "--raw"
      { headers := [("x", "POST"), ("x", "GET")], body := some (.raw "--raw") }
    arguments r = arguments s ∧
      (∀ entry ∈ r.headers.entries ++ s.headers.entries, ':' ∉ entry.1.toList) ∧
      r.method = s.method ∧ r.url = s.url ∧ r.proxy = s.proxy ∧
      r.followRedirects = s.followRedirects ∧ r.timeoutSeconds = s.timeoutSeconds ∧
      r.payload = s.payload ∧ headerTexts r = headerTexts s ∧ r.headers = s.headers := by
  intro common r s
  let given := ["--ignore-stdin", "--pretty=none", "--print=hb", "--follow", "--proxy=all:--follow",
    "--timeout=0", "PUT", "--raw", "x:GET", "--raw", "--raw"]
  have hr : arguments r = given := by decide +kernel
  have hs : arguments s = given := by decide +kernel
  have harguments : arguments r = arguments s := hr.trans hs.symm
  have hnames : ∀ entry ∈ r.headers.entries ++ s.headers.entries, ':' ∉ entry.1.toList := by
    decide +kernel
  obtain ⟨hmethod, hurl, hproxy, hfollow, htimeout, hpayload, htexts, hheaders⟩ :=
    arguments_determine_request harguments
  exact ⟨harguments, hnames, hmethod, hurl, hproxy, hfollow, htimeout, hpayload, htexts,
    hheaders hnames⟩

/-- It is not told which of two colons ends a name. -/
example :
    let r : Request := ⟨.get, "/", .ofList [("a", "b:c")], none, none, true, none⟩
    let s : Request := { r with headers := .ofList [("a:b", "c")] }
    arguments r = arguments s ∧ r.headers ≠ s.headers := by
  decide +kernel

end ResponseCheck.Xh
