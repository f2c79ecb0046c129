import ResponseCheck.Proofs.Settings.Headers
import ResponseCheck.Proofs.Text.ByteOrder

/-!
# Which of several headers wins

A name may be given more than once, in several letter cases: in the headers of a request, which are
a list, and in those of the settings, which are in the order of their bytes. The last one of the
request wins, then the greatest one of the settings; a content type is assumed where neither gives
one. For a raw body no content type is assumed, but together with the assumed one an equal one of
the settings is dropped.

## Main definitions

* `Http.Names`, `Http.IsLastOf`, `Http.IsGreatestOf` — entries of a name in any letter case
* `Http.Rearranged` — lists of headers in which every name has the same values in the same order
* `Http.SendsRaw` — requests with a raw body
* `Settings.Provides` — the value that wins

## Main results

* `Http.lookup_eq_some_iff_isLastOf`, `Http.isLastOf_entries_iff` — how the winner is found
* `Settings.prepared_headers_last_wins` — the headers of a prepared request
* `Settings.raw_body_content_type` — the content type of a raw body
* `Settings.raw_body_drops_configured_json` — a content type of the settings that is dropped
-/

namespace ResponseCheck

open Text (asciiLower Recased)

namespace Http

open Headers (lowerNames insertAll)

/-- Whether a name is among the entries, in any letter case. -/
def Names (entries : List (String × String)) (name : String) : Prop :=
  ∃ entry ∈ entries, asciiLower entry.1 = asciiLower name

/-- Whether the last entry of a name, in any letter case, has a value. -/
def IsLastOf (entries : List (String × String)) (name value : String) : Prop :=
  ∃ before given after, entries = before ++ (given, value) :: after ∧
    asciiLower given = asciiLower name ∧
    ∀ later ∈ after, asciiLower later.1 ≠ asciiLower name

/-- Whether the entry of a name that comes last in the order of bytes, among its letter cases, has a
value. -/
def IsGreatestOf (entries : List (String × String)) (name value : String) : Prop :=
  ∃ given, (given, value) ∈ entries ∧ asciiLower given = asciiLower name ∧
    ∀ other ∈ entries, asciiLower other.1 = asciiLower name →
      Utf8.encode other.1 ≤ Utf8.encode given

/-- Lists of headers that come of one another by changing the letter case of names, and by moving
headers past those of other names. -/
inductive Rearranged : List (String × String) → List (String × String) → Prop
  | nil : Rearranged [] []
  | cons {name name' value : String} {rest rest' : List (String × String)}
      (hname : Recased name name') (hrest : Rearranged rest rest') :
      Rearranged ((name, value) :: rest) ((name', value) :: rest')
  | swap {first second : String × String} (rest : List (String × String))
      (hne : asciiLower first.1 ≠ asciiLower second.1) :
      Rearranged (first :: second :: rest) (second :: first :: rest)
  | trans {entries entries' entries'' : List (String × String)}
      (h : Rearranged entries entries') (h' : Rearranged entries' entries'') :
      Rearranged entries entries''

/-- Whether a raw body is sent. -/
def SendsRaw (method : Method) (options : RequestOptions) : Prop :=
  method ∈ [.post, .put, .patch] ∧ ∃ text, options.body = some (.raw text)

variable {entries : List (String × String)} {headers : Headers} {method : Method}
  {options : RequestOptions} {name value : String}

theorem Method.sendsBody_iff : method.sendsBody = true ↔ method ∈ [.post, .put, .patch] := by
  cases method <;> decide

/-! ### Entries of a name -/

/-- Of names in several letter cases, a lookup from the end finds the last one. -/
theorem lookup_eq_some_iff_isLastOf :
    (lowerNames entries).reverse.lookup (asciiLower name) = some value ↔
      IsLastOf entries name value := by
  rw [List.lookup_eq_some_iff]
  constructor
  · rintro ⟨after, before, hreverse, hafter⟩
    have hsplit : lowerNames entries =
        before.reverse ++ (asciiLower name, value) :: after.reverse := by
      rw [List.reverse_eq_iff.mp hreverse]
      simp
    obtain ⟨front, rest, rfl, -, hrest⟩ := List.map_eq_append_iff.mp hsplit
    obtain ⟨⟨given, found⟩, back, rfl, hgiven, hback⟩ := List.map_eq_cons_iff.mp hrest
    obtain ⟨hname, rfl⟩ := Prod.mk.inj hgiven
    refine ⟨front, given, back, rfl, hname, fun later hmem hlater => ?_⟩
    have hlowered : (asciiLower later.1, later.2) ∈ after := by
      rw [← List.mem_reverse, ← hback]
      exact List.mem_map_of_mem hmem
    simpa [hlater] using hafter _ hlowered
  · rintro ⟨before, given, after, rfl, hgiven, hafter⟩
    refine ⟨(lowerNames after).reverse, (lowerNames before).reverse, ?_, fun later hmem => ?_⟩
    · simp [lowerNames, hgiven]
    · obtain ⟨entry, hentry, rfl⟩ := List.mem_map.mp (List.mem_reverse.mp hmem)
      exact bne_iff_ne.mpr (hafter entry hentry).symm

theorem lookup_eq_none_iff_names :
    (lowerNames entries).reverse.lookup (asciiLower name) = none ↔ ¬ Names entries name := by
  rw [← Option.not_isSome_iff_eq_none, isSome_lookup_iff, List.map_reverse, List.mem_reverse]
  simp [Names, lowerNames]

/-- In a header map the last entry of a name is the one that is greatest in the order of bytes. -/
theorem isLastOf_entries_iff :
    IsLastOf headers.entries name value ↔ IsGreatestOf headers.entries name value := by
  have hsorted : headers.entries.Pairwise
      fun first second => Utf8.encode first.1 < Utf8.encode second.1 :=
    headers.sorted.imp Text.precedes_iff_encode_lt.mp
  constructor
  · rintro ⟨before, given, after, hsplit, hgiven, hafter⟩
    rw [hsplit] at hsorted ⊢
    -- Names before this one are smaller, and those behind it are other ones.
    obtain ⟨-, -, hbefore⟩ := List.pairwise_append.mp hsorted
    refine ⟨given, List.mem_append_right _ List.mem_cons_self, hgiven, fun other hmem hname => ?_⟩
    rcases List.mem_append.mp hmem with hother | hother
    · exact List.le_of_lt (hbefore other hother _ List.mem_cons_self)
    · rcases List.mem_cons.mp hother with rfl | hother
      · exact List.le_refl _
      · exact absurd hname (hafter other hother)
  · rintro ⟨given, hmem, hgiven, hgreatest⟩
    obtain ⟨before, after, hsplit⟩ := List.append_of_mem hmem
    refine ⟨before, given, after, hsplit, hgiven, fun later hlater hname => ?_⟩
    rw [hsplit] at hsorted hgreatest
    obtain ⟨-, hafter, -⟩ := List.pairwise_append.mp hsorted
    have hlt := (List.pairwise_cons.mp hafter).1 later hlater
    have hle := hgreatest later
      (List.mem_append_right _ (List.mem_cons_of_mem _ hlater)) hname
    exact List.not_lt.mpr hle hlt

/-! ### Rearranged headers -/

/-- Rearranged headers come to the same map. -/
theorem Rearranged.insertAll_eq {entries' : List (String × String)}
    (h : Rearranged entries entries') (headers : Headers) :
    headers.insertAll (lowerNames entries) = headers.insertAll (lowerNames entries') := by
  -- By the steps, for any map that they are added to.
  induction h generalizing headers with
  | nil => rfl
  | @cons name name' value rest rest' hname _ ih =>
    have hsmall : asciiLower name = asciiLower name' := hname.asciiLower_eq
    calc (headers.insert (asciiLower name) value).insertAll (lowerNames rest)
      _ = (headers.insert (asciiLower name) value).insertAll (lowerNames rest') := ih _
      _ = (headers.insert (asciiLower name') value).insertAll (lowerNames rest') := by rw [hsmall]
  | @swap first second rest hne =>
    exact congrArg (insertAll · (lowerNames rest))
      (Headers.insert_insert_comm hne first.2 second.2)
  | trans _ _ ih ih' => exact (ih headers).trans (ih' headers)

end Http

namespace Settings

open Http (Headers Method RequestOptions Names IsLastOf IsGreatestOf Rearranged SendsRaw)

/-- The value that a header has if it is not given. -/
def assumed (name : String) : Option String :=
  if asciiLower name = "content-type" then some "application/json" else none

/-- Which value wins for a name in any letter case: the last one of the request, then the greatest
one of the settings, then what is assumed. -/
inductive Provides (settings : Settings) (options : RequestOptions) (name : String) :
    Option String → Prop
  | own {value : String} (hlast : IsLastOf options.headers name value) :
      Provides settings options name (some value)
  | common {value : String} (hown : ¬ Names options.headers name)
      (hgreatest : IsGreatestOf settings.headers.entries name value) :
      Provides settings options name (some value)
  | assumed (hown : ¬ Names options.headers name)
      (hcommon : ¬ Names settings.headers.entries name) :
      Provides settings options name (assumed name)

variable {settings : Settings} {method : Method} {url : String} {options : RequestOptions}
  {name value : String} {found : Option String}

theorem provides_iff :
    settings.Provides options name found ↔
      ((Headers.lowerNames options.headers).reverse.lookup (asciiLower name)).or
        (((Headers.lowerNames settings.headers.entries).reverse.lookup (asciiLower name)).or
          (assumed name)) = found := by
  constructor
  · rintro (hlast | ⟨hown, hgreatest⟩ | ⟨hown, hcommon⟩)
    · rw [Http.lookup_eq_some_iff_isLastOf.mpr hlast, Option.some_or]
    · rw [Http.lookup_eq_none_iff_names.mpr hown, Option.none_or,
        Http.lookup_eq_some_iff_isLastOf.mpr (Http.isLastOf_entries_iff.mpr hgreatest),
        Option.some_or]
    · rw [Http.lookup_eq_none_iff_names.mpr hown, Option.none_or,
        Http.lookup_eq_none_iff_names.mpr hcommon, Option.none_or]
  · rintro rfl
    cases hown : (Headers.lowerNames options.headers).reverse.lookup (asciiLower name) with
    | some value => exact .own (Http.lookup_eq_some_iff_isLastOf.mp hown)
    | none =>
      have hown := Http.lookup_eq_none_iff_names.mp hown
      cases hcommon : (Headers.lowerNames settings.headers.entries).reverse.lookup
          (asciiLower name) with
      | some value =>
        have hlast := Http.lookup_eq_some_iff_isLastOf.mp hcommon
        exact .common hown (Http.isLastOf_entries_iff.mp hlast)
      | none => exact .assumed hown (Http.lookup_eq_none_iff_names.mp hcommon)

/-! ### Headers of a prepared request -/

theorem bodyHeaders_of_not_sendsRaw (h : ¬ SendsRaw method options) (headers : Headers) :
    bodyHeaders headers (if method.sendsBody then options.body else none) = headers := by
  have hraw : (if method.sendsBody then options.body else none).any (·.isRaw) = false := by
    split
    · next hsends =>
      cases hbody : options.body with
      | none => rfl
      | some body =>
        cases body with
        | json value => rfl
        | raw text => exact absurd ⟨Http.Method.sendsBody_iff.mp hsends, text, hbody⟩ h
    · rfl
  rw [bodyHeaders, hraw]
  rfl

/-- A raw body drops the content type that is assumed, and any other of the same value. -/
theorem get?_contentType_bodyHeaders_raw (headers : Headers) (text : String) :
    (bodyHeaders headers (some (.raw text))).get? "content-type" =
      (headers.get? "content-type").filter (· ≠ "application/json") := by
  unfold bodyHeaders
  cases hfound : headers.get? "content-type" with
  | none => simp [hfound]
  | some value =>
    by_cases hjson : value = "application/json"
    · simp [hjson, jsonContentType, Http.Body.isRaw, Headers.get?_erase, Option.filter_some]
    · simp [hjson, jsonContentType, hfound, Option.filter_some]

theorem asciiLower_contentType : asciiLower "content-type" = "content-type" := by decide +kernel

theorem small_bodyHeaders {headers : Headers} (h : headers.Small) (body : Option Http.Body) :
    (bodyHeaders headers body).Small := by
  unfold bodyHeaders
  split
  · exact h.erase _
  · exact h

theorem small_headers_prepare : (settings.prepare method url options).headers.Small := by
  have hassumed : (Headers.ofList [("content-type", jsonContentType)]).Small :=
    Headers.small_empty.insert asciiLower_contentType
  have hcommon : settings.commonHeaders.Small := hassumed.insertAll _
  exact (small_bodyHeaders hcommon _).insertAll _

/-- Where no raw body is sent, or for names other than that of the content type, the headers are
those that win. -/
theorem get?_headers_prepare_iff
    (hname : asciiLower name = "content-type" → ¬ SendsRaw method options) :
    (settings.prepare method url options).headers.get? (asciiLower name) = found ↔
      settings.Provides options name found := by
  have hbody : (bodyHeaders settings.commonHeaders
      (if method.sendsBody then options.body else none)).get? (asciiLower name) =
        settings.commonHeaders.get? (asciiLower name) := by
    by_cases htype : asciiLower name = "content-type"
    · rw [bodyHeaders_of_not_sendsRaw (hname htype)]
    · exact get?_bodyHeaders htype
  rw [get?_headers_prepare_eq, hbody, get?_commonHeaders, provides_iff]
  rfl

theorem prepare_rearranged {rearranged : List (String × String)}
    (h : Rearranged options.headers rearranged) :
    settings.prepare method url { options with headers := rearranged } =
      settings.prepare method url options := by
  simp only [prepare, h.insertAll_eq]

/-- **The last header wins.** The headers of a prepared request have small names. For every name, in
any letter case, the value is the last one of the request, then the one of the settings whose name is
greatest in the order of bytes, then what is assumed; only where a raw body is sent, this is not said
of the content type. The request stays the same when its headers are rearranged, and, for methods
that send no body, whatever the body is. -/
theorem prepared_headers_last_wins (settings : Settings) (method : Method) (url : String)
    (options : RequestOptions) :
    let request := settings.prepare method url options
    request.headers.Small ∧
    (∀ name found, (asciiLower name = "content-type" → ¬ SendsRaw method options) →
      (request.headers.get? (asciiLower name) = found ↔
        settings.Provides options name found)) ∧
    (∀ rearranged, Rearranged options.headers rearranged →
      settings.prepare method url { options with headers := rearranged } = request) ∧
    (method ∈ [.get, .delete, .head, .options] → request.payload = none ∧
      ∀ body, settings.prepare method url { options with body } = request) := by
  intro request
  refine ⟨small_headers_prepare, fun _ _ => get?_headers_prepare_iff, fun _ => prepare_rearranged,
    fun hmethod => ?_⟩
  have hsends : method.sendsBody = false := by
    simp only [List.mem_cons, List.not_mem_nil, or_false] at hmethod
    rcases hmethod with rfl | rfl | rfl | rfl <;> rfl
  refine ⟨?_, fun body => ?_⟩
  · simp [request, prepare, hsends]
  · simp [request, prepare, hsends]

/-- A content type of the settings in two letter cases, a name of the request in two letter cases that
another one is moved past, and a raw body that is not sent. -/
theorem prepared_headers_last_wins_of_cases :
    let settings : Settings :=
      { headers := .ofList [("Content-Type", "text/html"), ("CONTENT-TYPE", "text/csv")] }
    let options : RequestOptions :=
      { headers := [("X", "1"), ("y", "3"), ("x", "2")], body := some (.raw "r") }
    let rearranged := [("y", "3"), ("x", "1"), ("X", "2")]
    let request := settings.prepare .get "/" options
    (asciiLower "content-type" = "content-type" → ¬ SendsRaw .get options) ∧
      settings.Provides options "content-type" (some "text/html") ∧
      request.headers.get? (asciiLower "content-type") = some "text/html" ∧
      Rearranged options.headers rearranged ∧
      settings.prepare .get "/" { options with headers := rearranged } = request ∧
      Method.get ∈ [.get, .delete, .head, .options] ∧ request.payload = none ∧
      settings.prepare .get "/" { options with body := none } = request := by
  intro settings options rearranged request
  have hraw : asciiLower "content-type" = "content-type" → ¬ SendsRaw .get options :=
    fun _ h => absurd h.1 (by decide)
  have hx : asciiLower "x" = "x" := by decide +kernel
  have hX : asciiLower "X" = "x" := by decide +kernel
  have hy : asciiLower "y" = "y" := by decide +kernel
  have hown : ¬ Names options.headers "content-type" := by
    rintro ⟨entry, hmem, hname⟩
    simp only [options, List.mem_cons, List.not_mem_nil, or_false] at hmem
    rw [asciiLower_contentType] at hname
    rcases hmem with rfl | rfl | rfl
    · exact absurd (hX.symm.trans hname) (by decide)
    · exact absurd (hy.symm.trans hname) (by decide)
    · exact absurd (hx.symm.trans hname) (by decide)
  have hentries : settings.headers.entries =
      [("CONTENT-TYPE", "text/csv"), ("Content-Type", "text/html")] := by
    decide +kernel
  have hprovides : settings.Provides options "content-type" (some "text/html") := by
    have hname : asciiLower "Content-Type" = "content-type" := by decide +kernel
    refine .common hown ⟨"Content-Type", ?_, hname.trans asciiLower_contentType.symm, ?_⟩
    · simp [hentries]
    · intro other hmem _
      simp only [hentries, List.mem_cons, List.not_mem_nil, or_false] at hmem
      rcases hmem with rfl | rfl <;> decide +kernel
  have hrearranged : Rearranged options.headers rearranged := by
    have hrecased : Recased "X" "x" ∧ Recased "x" "X" ∧ Recased "y" "y" := by
      unfold Recased
      decide
    have hne : asciiLower "X" ≠ asciiLower "y" := by
      rw [hX, hy]
      decide
    exact .trans (.swap _ hne) (.cons hrecased.2.2 (.cons hrecased.1 (.cons hrecased.2.1 .nil)))
  obtain ⟨-, hvalue, hsame, hbody⟩ := prepared_headers_last_wins settings .get "/" options
  have hmethod : Method.get ∈ [.get, .delete, .head, .options] := by decide
  exact ⟨hraw, hprovides, (hvalue _ _ hraw).mpr hprovides, hrearranged, hsame _ hrearranged,
    hmethod, (hbody hmethod).1, (hbody hmethod).2 none⟩

/-- **Content types of raw bodies.** A request with a raw body has the content type that its own
headers give last, and else the one that wins in the settings, unless this is the one that is assumed
for other bodies. -/
theorem raw_body_content_type (settings : Settings) {method : Method}
    (hmethod : method ∈ [.post, .put, .patch]) (url text : String)
    (headers : List (String × String)) (value : String) :
    let request := settings.prepare method url { headers, body := some (.raw text) }
    request.headers.get? "content-type" = some value ↔
      IsLastOf headers "content-type" value ∨
        ¬ Names headers "content-type" ∧
          IsGreatestOf settings.headers.entries "content-type" value ∧
          value ≠ "application/json" := by
  intro request
  have hsends : method.sendsBody = true := Http.Method.sendsBody_iff.mpr hmethod
  have hown : IsLastOf headers "content-type" value ↔
      (Headers.lowerNames headers).reverse.lookup "content-type" = some value := by
    rw [← Http.lookup_eq_some_iff_isLastOf, asciiLower_contentType]
  have hnone : ¬ Names headers "content-type" ↔
      (Headers.lowerNames headers).reverse.lookup "content-type" = none := by
    rw [← Http.lookup_eq_none_iff_names, asciiLower_contentType]
  have hcommon : IsGreatestOf settings.headers.entries "content-type" value ↔
      (Headers.lowerNames settings.headers.entries).reverse.lookup "content-type" = some value := by
    rw [← Http.isLastOf_entries_iff, ← Http.lookup_eq_some_iff_isLastOf, asciiLower_contentType]
  have hfound : request.headers.get? "content-type" =
      ((Headers.lowerNames headers).reverse.lookup "content-type").or
        ((settings.commonHeaders.get? "content-type").filter (· ≠ "application/json")) := by
    rw [get?_headers_prepare_eq, hsends]
    exact congrArg _ (get?_contentType_bodyHeaders_raw ..)
  rw [hfound, hown, hnone, hcommon, get?_commonHeaders, if_pos rfl, jsonContentType]
  cases (Headers.lowerNames headers).reverse.lookup "content-type" with
  | some last => simp
  | none =>
    -- What is assumed is dropped for its value, and so is a given one that is the same.
    cases (Headers.lowerNames settings.headers.entries).reverse.lookup "content-type" with
    | none => simp [Option.filter_some]
    | some common => simp [Option.filter_eq_some_iff]

/-- Of two content types in the settings the greater one wins, although the other one is JSON. -/
theorem raw_body_content_type_of_two :
    let settings : Settings :=
      { headers := .ofList [("content-type", "text/csv"), ("Content-Type", "application/json")] }
    let request := settings.prepare .patch "/" { headers := [("x", "1")], body := some (.raw "1") }
    Method.patch ∈ [.post, .put, .patch] ∧ ¬ Names [("x", "1")] "content-type" ∧
      IsGreatestOf settings.headers.entries "content-type" "text/csv" ∧
      request.headers.get? "content-type" = some "text/csv" := by
  intro settings request
  have hmethod : Method.patch ∈ [.post, .put, .patch] := by decide
  have hx : asciiLower "x" = "x" := by decide +kernel
  have hown : ¬ Names [("x", "1")] "content-type" := by
    rintro ⟨entry, hmem, hname⟩
    rw [List.mem_singleton.mp hmem, hx, asciiLower_contentType] at hname
    exact absurd hname (by decide)
  have hentries : settings.headers.entries =
      [("Content-Type", "application/json"), ("content-type", "text/csv")] := by
    decide +kernel
  have hgreatest : IsGreatestOf settings.headers.entries "content-type" "text/csv" := by
    rw [hentries]
    refine ⟨"content-type", by simp, rfl, fun other hmem _ => ?_⟩
    simp only [List.mem_cons, List.not_mem_nil, or_false] at hmem
    rcases hmem with rfl | rfl <;> decide +kernel
  refine ⟨hmethod, hown, hgreatest, ?_⟩
  have hne : "text/csv" ≠ "application/json" := by decide
  exact (raw_body_content_type settings hmethod "/" "1" [("x", "1")] "text/csv").mpr
    (.inr ⟨hown, hgreatest, hne⟩)

/-- A content type of the settings is dropped for a raw body if it is the one that is assumed. -/
theorem raw_body_drops_configured_json :
    let settings : Settings := { headers := .ofList [("Content-Type", "application/json")] }
    let options : RequestOptions := { body := some (.raw "a=1") }
    let request := settings.prepare .post "http://h" options
    Names (settings.headers.entries ++ options.headers) "content-type" ∧
      request.headers.get? "content-type" = none := by
  intro settings options request
  have hmem : ("Content-Type", "application/json") ∈
      settings.headers.entries ++ options.headers := by
    decide +kernel
  have hname : asciiLower "Content-Type" = "content-type" := by decide +kernel
  exact ⟨⟨_, hmem, hname.trans asciiLower_contentType.symm⟩, by decide +kernel⟩

end Settings

end ResponseCheck
