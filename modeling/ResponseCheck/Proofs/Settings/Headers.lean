import ResponseCheck.Proofs.Http.Headers
import ResponseCheck.Settings

/-! A request has the headers of its settings and its own ones, under small names, and a content
type that is assumed unless another one is given or the body is raw. -/

namespace ResponseCheck.Settings

open Http (Headers Method RequestOptions)

variable {settings : Settings} {method : Method} {url : String} {options : RequestOptions}
  {name : String}

theorem get?_commonHeaders (settings : Settings) (name : String) :
    settings.commonHeaders.get? name =
      ((Headers.lowerNames settings.headers.entries).reverse.lookup name).or
        (if name = "content-type" then some jsonContentType else none) := by
  rw [commonHeaders, Headers.get?_insertAll]
  -- What is left behind the headers of the settings is the one that is assumed.
  congr 1
  rw [Headers.ofList, Headers.get?_insertAll]
  simp only [List.reverse_singleton, lookup_cons_eq_ite, List.lookup_nil, Headers.empty,
    Headers.get?, Option.or_none]

/-- Only the content type depends on the body. -/
theorem get?_bodyHeaders {headers : Headers} {body : Option Http.Body}
    (hname : name ≠ "content-type") : (bodyHeaders headers body).get? name = headers.get? name := by
  unfold bodyHeaders
  split
  · rw [Headers.get?_erase, if_neg hname]
  · rfl

/-- The headers of a request come before those that it is completed with. -/
theorem get?_headers_prepare_eq (name : String) :
    (settings.prepare method url options).headers.get? name =
      ((Headers.lowerNames options.headers).reverse.lookup name).or
        ((bodyHeaders settings.commonHeaders
          (if method.sendsBody then options.body else none)).get? name) :=
  Headers.get?_insertAll ..

/-- The headers of a request come before those of the settings. -/
theorem get?_headers_prepare (hname : name ≠ "content-type") :
    (settings.prepare method url options).headers.get? name =
      ((Headers.lowerNames options.headers).reverse.lookup name).or
        ((Headers.lowerNames settings.headers.entries).reverse.lookup name) := by
  rw [get?_headers_prepare_eq, get?_bodyHeaders hname, get?_commonHeaders, if_neg hname,
    Option.or_none]

/-- The names of a prepared request are those that are given, made small. -/
theorem isSome_get?_headers_prepare_iff (hname : name ≠ "content-type") :
    ((settings.prepare method url options).headers.get? name).isSome ↔
      ∃ entry ∈ settings.headers.entries ++ options.headers, Text.asciiLower entry.1 = name := by
  have hgiven (entries : List (String × String)) :
      ((Headers.lowerNames entries).reverse.lookup name).isSome ↔
        ∃ entry ∈ entries, Text.asciiLower entry.1 = name := by
    rw [isSome_lookup_iff, List.map_reverse, List.mem_reverse]
    simp [Headers.lowerNames]
  rw [get?_headers_prepare hname, Option.isSome_or, Bool.or_eq_true, hgiven, hgiven]
  simp only [List.mem_append, or_and_right, exists_or, or_comm]

end ResponseCheck.Settings
