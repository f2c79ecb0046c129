import Mathlib.Tactic.Tauto
import ResponseCheck.Proofs.Settings.Headers
import ResponseCheck.Proofs.Settings.Url
import ResponseCheck.Proofs.Text.Blank
import ResponseCheck.Proofs.Text.LetterCase
import ResponseCheck.Xh

/-!
# Where arguments of the tool come from

The tool takes an argument that starts with a dash for an option, unless it is the value of the flag
before it. The program writes options of its own. What a request brings along stands where the tool
expects a URL, a header or a payload, with nothing in front of it that would keep the tool from
reading it as an option: a URL without a base, a base, or the name of a header that starts with a
dash gives an argument that does. Nothing else in a request does so.
-/

namespace ResponseCheck.Xh

open Http (Request Method RequestOptions)

/-- Whether an argument starts with a dash, like an option. -/
def IsDashed (argument : String) : Prop := argument.toList.head? = some '-'

/-- The options that the program itself writes. -/
def IsOwnFlag (argument : String) : Prop :=
  argument ∈ ["--ignore-stdin", "--pretty=none", "--print=hb", "--follow", "--raw"] ∨
    "--proxy=all:".toList <+: argument.toList ∨ "--timeout=".toList <+: argument.toList

instance (argument : String) : Decidable (IsDashed argument) :=
  inferInstanceAs (Decidable (_ = _))

instance (argument : String) : Decidable (IsOwnFlag argument) :=
  inferInstanceAs (Decidable (_ ∨ _ ∨ _))

/-- Where an argument comes from. -/
inductive Origin where
  /-- The program itself: a flag, or the name of the method. -/
  | program
  | url
  /-- The header of a name. -/
  | header (name : String)
  | payload
deriving DecidableEq, Repr

/-- The flags in front of the method. -/
def flags (request : Request) : List String :=
  ["--ignore-stdin", "--pretty=none", "--print=hb"]
    ++ (if request.followRedirects then ["--follow"] else [])
    ++ request.proxy.toList.map ("--proxy=all:" ++ ·)
    ++ request.timeoutSeconds.toList.map (fun seconds => s!"--timeout={seconds}")

/-- The arguments before the payload, each with where it comes from. -/
def originsOfHead (request : Request) : List (Origin × String) :=
  (flags request ++ [request.method.name]).map (Origin.program, ·)
    ++ [(.url, request.url)]
    ++ request.headers.entries.map fun (name, value) => (.header name, name ++ ":" ++ value)

/-- The arguments of the tool for a request, each with where it comes from. -/
def origins (request : Request) : List (Origin × String) :=
  originsOfHead request
    ++ request.payload.toList.flatMap fun payload => [(.program, "--raw"), (.payload, payload)]

variable {request : Request} {argument name : String}

theorem map_snd_origins (request : Request) :
    (origins request).map Prod.snd = arguments request := by
  unfold origins originsOfHead arguments flags
  cases request.payload <;> simp [Function.comp_def]

/-! ### Arguments of each origin -/

theorem isOwnFlag_of_mem_flags (h : argument ∈ flags request) : IsOwnFlag argument := by
  simp only [flags, List.mem_append] at h
  rcases h with ((hfixed | hfollow) | hproxy) | htimeout
  · left
    simp only [List.mem_cons, List.not_mem_nil, or_false] at hfixed ⊢
    tauto
  · left
    split at hfollow
    · rw [List.mem_singleton.mp hfollow]
      simp
    · cases hfollow
  · obtain ⟨proxy, -, rfl⟩ := List.mem_map.mp hproxy
    right; left
    rw [String.toList_append]
    exact List.prefix_append ..
  · obtain ⟨seconds, -, rfl⟩ := List.mem_map.mp htimeout
    right; right
    rw [String.toList_append]
    exact List.prefix_append ..

theorem mem_originsOfHead_iff {origin : Origin} :
    (origin, argument) ∈ originsOfHead request ↔
      (origin = .program ∧ (argument ∈ flags request ∨ argument = request.method.name)) ∨
      (origin = .url ∧ argument = request.url) ∨
      ∃ name value, request.headers.get? name = some value ∧ origin = .header name ∧
        argument = name ++ ":" ++ value := by
  simp only [Http.Headers.get?_eq_some_iff]
  simp only [originsOfHead, List.mem_append, List.mem_map, List.mem_singleton, Prod.mk.injEq,
    Prod.exists, or_assoc]
  refine or_congr ?_ (or_congr_right ?_)
  · constructor
    · rintro ⟨_, hmem, rfl, rfl⟩
      exact ⟨rfl, hmem⟩
    · rintro ⟨rfl, hmem⟩
      exact ⟨_, hmem, rfl, rfl⟩
  · simp only [eq_comm (b := origin), eq_comm (b := argument)]

theorem mem_origins_iff {origin : Origin} :
    (origin, argument) ∈ origins request ↔
      (origin, argument) ∈ originsOfHead request ∨
        ∃ payload, request.payload = some payload ∧
          ((origin = .program ∧ argument = "--raw") ∨
            (origin = .payload ∧ argument = payload)) := by
  simp only [origins, List.mem_append, List.mem_flatMap, Option.mem_toList,
    List.mem_cons, List.not_mem_nil, or_false, Prod.mk.injEq]

/-- What the program writes by itself is one of its flags, or the name of a method. -/
theorem isOwnFlag_of_mem_origins (h : (.program, argument) ∈ origins request)
    (hdashed : IsDashed argument) : IsOwnFlag argument := by
  have hmethod : ¬ IsDashed request.method.name := by
    unfold IsDashed
    cases request.method <;> decide
  rcases mem_origins_iff.mp h with hhead | ⟨payload, -, ⟨-, rfl⟩ | ⟨hother, -⟩⟩
  · rcases mem_originsOfHead_iff.mp hhead with ⟨-, hflag | rfl⟩ | ⟨hother, -⟩ | ⟨_, _, _, hother, _⟩
    · exact isOwnFlag_of_mem_flags hflag
    · exact absurd hdashed hmethod
    · cases hother
    · cases hother
  · left
    simp
  · cases hother

theorem mem_origins_url_iff : (.url, argument) ∈ origins request ↔ argument = request.url := by
  simp [mem_origins_iff, mem_originsOfHead_iff]

theorem mem_origins_header_iff :
    (.header name, argument) ∈ origins request ↔
      ∃ value, request.headers.get? name = some value ∧ argument = name ++ ":" ++ value := by
  simp only [mem_origins_iff, mem_originsOfHead_iff, reduceCtorEq, false_and, false_or, and_false,
    exists_false, or_false, Origin.header.injEq]
  constructor
  · rintro ⟨_, value, hvalue, rfl, rfl⟩
    exact ⟨value, hvalue, rfl⟩
  · rintro ⟨value, hvalue, rfl⟩
    exact ⟨name, value, hvalue, rfl, rfl⟩

theorem ne_payload_of_mem_originsOfHead {entry : Origin × String}
    (h : entry ∈ originsOfHead request) : entry.1 ≠ .payload := by
  obtain ⟨origin, argument⟩ := entry
  rcases mem_originsOfHead_iff.mp h with ⟨rfl, -⟩ | ⟨rfl, -⟩ | ⟨name, value, -, rfl, -⟩ <;>
    exact nofun

/-! ### Dashes -/

theorem isDashed_asciiLower_iff : IsDashed (Text.asciiLower name) ↔ IsDashed name := by
  have hdash (c : Char) : c.toLower = '-' ↔ c = '-' := Text.toLower_eq_iff rfl
  unfold IsDashed
  rw [Text.toList_asciiLower, List.head?_map]
  cases name.toList.head? with
  | none => simp
  | some c => simpa using hdash c

/-- The argument of a header starts like its name. -/
theorem isDashed_header_iff {value : String} : IsDashed (name ++ ":" ++ value) ↔ IsDashed name := by
  unfold IsDashed
  rw [String.toList_append, String.toList_append]
  cases name.toList with
  | nil => simp
  | cons c rest => simp

theorem not_isDashed_of_isAbsolute {url : String} (h : Settings.isAbsolute url = true) :
    ¬ IsDashed url := by
  have hletter := (Settings.isAbsolute_iff.mp h).head?_asciiLower
  rw [← isDashed_asciiLower_iff]
  intro hdashed
  exact absurd (hdashed.symm.trans hletter) (by decide)

/-- A base and a URL start like the base, since only slashes at its end are dropped. -/
theorem isDashed_joinUrl_iff {base url : String} :
    IsDashed (Settings.joinUrl base url) ↔ IsDashed base := by
  unfold IsDashed Settings.joinUrl
  rw [String.toList_ofList]
  cases base.toList with
  | nil => simp [Text.dropEndWhile]
  | cons c rest =>
    rw [Text.dropEndWhile_cons]
    split
    · next hslash =>
      -- The base consists of slashes alone.
      obtain ⟨-, hc⟩ : _ ∧ (c == '/') = true := by simpa using hslash
      obtain rfl := beq_iff_eq.mp hc
      simp
    · simp

/-- A relative URL starts with a dash if its base does; without a base any URL stays as it is. -/
theorem isDashed_resolveUrl_iff {settings : Settings} {url : String} :
    IsDashed (settings.resolveUrl url) ↔
      (settings.baseUrl = none ∧ IsDashed url) ∨
        ∃ base, settings.baseUrl = some base ∧ Settings.isAbsolute url = false ∧ IsDashed base := by
  unfold Settings.resolveUrl
  cases habsolute : Settings.isAbsolute url with
  | true => simp [not_isDashed_of_isAbsolute habsolute]
  | false => cases settings.baseUrl <;> simp [isDashed_joinUrl_iff]

section Prepared

variable {settings : Settings} {method : Method} {url : String} {options : RequestOptions}

/-- The names that start with a dash are those that were given, made small. -/
theorem isSome_get?_headers_prepare_iff_of_isDashed (hname : IsDashed name) :
    ((settings.prepare method url options).headers.get? name).isSome ↔
      ∃ entry ∈ settings.headers.entries ++ options.headers, Text.asciiLower entry.1 = name := by
  refine Settings.isSome_get?_headers_prepare_iff ?_
  rintro rfl
  exact absurd hname (by decide)

/-- The argument of a header starts with a dash if a name does that was given for it. -/
theorem isDashed_of_mem_origins_header_iff
    (h : (.header name, argument) ∈ origins (settings.prepare method url options)) :
    IsDashed argument ↔
      IsDashed name ∧
        ∃ entry ∈ settings.headers.entries ++ options.headers, Text.asciiLower entry.1 = name := by
  obtain ⟨value, hvalue, rfl⟩ := mem_origins_header_iff.mp h
  rw [isDashed_header_iff]
  refine ⟨fun hname => ⟨hname, ?_⟩, And.left⟩
  exact (isSome_get?_headers_prepare_iff_of_isDashed hname).mp (hvalue ▸ Option.isSome_some)

theorem exists_mem_origins_header {entry : String × String}
    (hmem : entry ∈ settings.headers.entries ++ options.headers) (hdashed : IsDashed entry.1) :
    ∃ argument, (.header (Text.asciiLower entry.1), argument) ∈
      origins (settings.prepare method url options) ∧ IsDashed argument := by
  have hname : IsDashed (Text.asciiLower entry.1) := isDashed_asciiLower_iff.mpr hdashed
  have hsome : ((settings.prepare method url options).headers.get?
      (Text.asciiLower entry.1)).isSome :=
    (isSome_get?_headers_prepare_iff_of_isDashed hname).mpr ⟨entry, hmem, rfl⟩
  obtain ⟨value, hvalue⟩ := Option.isSome_iff_exists.mp hsome
  exact ⟨_, mem_origins_header_iff.mpr ⟨value, hvalue, rfl⟩, isDashed_header_iff.mpr hname⟩

end Prepared

/-- **Where options of the tool come from.** Of the arguments for a prepared request, those that
the program writes by itself are its own flags where they start with a dash, and a payload stands
at the end, right behind its flag. A URL is dashed if it was given so and there is no base, or if
it is joined to a base that is dashed. The argument of a header is dashed if its name is, whatever
its value; the name is then a given one, of the settings or of the request, made small, and each
dashed name that is given comes to such an argument. -/
theorem dashed_arguments_of_request (settings : Settings) (method : Method) (url : String)
    (options : RequestOptions) :
    let request := settings.prepare method url options
    (origins request).map Prod.snd = arguments request ∧
    (∀ argument, (.program, argument) ∈ origins request → IsDashed argument →
      IsOwnFlag argument) ∧
    (∃ front, (∀ entry ∈ front, entry.1 ≠ .payload) ∧ origins request =
      front ++ request.payload.toList.flatMap fun payload =>
        [(.program, "--raw"), (.payload, payload)]) ∧
    (∀ argument, (.url, argument) ∈ origins request →
      (IsDashed argument ↔ (settings.baseUrl = none ∧ IsDashed url) ∨
        ∃ base, settings.baseUrl = some base ∧ Settings.isAbsolute url = false ∧
          IsDashed base)) ∧
    (∀ name argument, (.header name, argument) ∈ origins request →
      (IsDashed argument ↔ IsDashed name ∧
        ∃ entry ∈ settings.headers.entries ++ options.headers, Text.asciiLower entry.1 = name)) ∧
    (∀ entry ∈ settings.headers.entries ++ options.headers, IsDashed entry.1 →
      ∃ argument, (.header (Text.asciiLower entry.1), argument) ∈ origins request ∧
        IsDashed argument) := by
  intro request
  refine ⟨map_snd_origins request, fun _ => isOwnFlag_of_mem_origins,
    ⟨originsOfHead request, fun _ => ne_payload_of_mem_originsOfHead, rfl⟩, ?_,
    fun _ _ => isDashed_of_mem_origins_header_iff, fun _ => exists_mem_origins_header⟩
  intro argument hurl
  rw [mem_origins_url_iff.mp hurl]
  exact isDashed_resolveUrl_iff

/-- A URL that is joined to a dashed base, a dashed header of the settings, and a dashed payload. -/
theorem dashed_arguments_of_request_of_base :
    let settings : Settings :=
      { baseUrl := some "--base/", headers := .ofList [("-X", "1")], proxy := some "-p" }
    let request := settings.prepare .post "/items" { body := some (.raw "-payload") }
    (Origin.program, "--proxy=all:-p") ∈ origins request ∧ IsDashed "--proxy=all:-p" ∧
      IsOwnFlag "--proxy=all:-p" ∧ (Origin.url, "--base/items") ∈ origins request ∧
      IsDashed "--base/items" ∧ (Origin.header "-x", "-x:1") ∈ origins request ∧
      IsDashed "-x:1" ∧ ("-X", "1") ∈ settings.headers.entries ++ [] ∧ IsDashed "-X" ∧
      ∃ argument, (Origin.header "-x", argument) ∈ origins request ∧ IsDashed argument := by
  intro settings request
  have hproxy : (Origin.program, "--proxy=all:-p") ∈ origins request := by decide +kernel
  have hurl : (Origin.url, "--base/items") ∈ origins request := by decide +kernel
  have hheader : (Origin.header "-x", "-x:1") ∈ origins request := by decide +kernel
  have hgiven : ("-X", "1") ∈ settings.headers.entries ++ [] := by decide +kernel
  obtain ⟨-, hprogram, -, hurls, hheaders, hnames⟩ :=
    dashed_arguments_of_request settings .post "/items" { body := some (.raw "-payload") }
  have hsmall : Text.asciiLower "-X" = "-x" := by decide +kernel
  have hnamed := hnames ("-X", "1") hgiven (by decide)
  rw [hsmall] at hnamed
  refine ⟨hproxy, by decide, hprogram _ hproxy (by decide), hurl, ?_, hheader, ?_, hgiven,
    by decide, hnamed⟩
  · exact (hurls _ hurl).mpr (.inr ⟨"--base/", rfl, by decide +kernel, by decide⟩)
  · exact (hheaders _ _ hheader).mpr ⟨by decide, ("-X", "1"), hgiven, hsmall⟩

/-- A URL, and the name of a header, that start with a dash come to arguments that do. They are none
of the flags of the program, and not the value of the flag for a payload. -/
theorem dashed_url_and_header :
    let byUrl := ({} : Settings).prepare .get "--offline" {}
    let byHeader := ({} : Settings).prepare .get "http://h" { headers := [("--Auth", "me")] }
    arguments byUrl = ["--ignore-stdin", "--pretty=none", "--print=hb", "--follow", "GET",
      "--offline", "content-type:application/json"] ∧
    arguments byHeader = ["--ignore-stdin", "--pretty=none", "--print=hb", "--follow", "GET",
      "http://h", "--auth:me", "content-type:application/json"] ∧
    ∀ request ∈ [byUrl, byHeader],
      ¬ ∀ before argument after, arguments request = before ++ argument :: after →
        IsDashed argument → IsOwnFlag argument ∨ before.getLast? = some "--raw" := by
  intro byUrl byHeader
  have hurl : arguments byUrl =
      ["--ignore-stdin", "--pretty=none", "--print=hb", "--follow", "GET"] ++
        "--offline" :: ["content-type:application/json"] := by decide +kernel
  have hheader : arguments byHeader =
      ["--ignore-stdin", "--pretty=none", "--print=hb", "--follow", "GET", "http://h"] ++
        "--auth:me" :: ["content-type:application/json"] := by decide +kernel
  refine ⟨hurl, hheader, fun request hmem h => ?_⟩
  simp only [List.mem_cons, List.not_mem_nil, or_false] at hmem
  rcases hmem with rfl | rfl
  · exact absurd (h _ _ _ hurl (by decide)) (by decide)
  · exact absurd (h _ _ _ hheader (by decide)) (by decide)

end ResponseCheck.Xh
