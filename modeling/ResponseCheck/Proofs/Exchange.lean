import ResponseCheck.Exchange
import ResponseCheck.Proofs.Except
import ResponseCheck.Proofs.Json.Reading.Value
import ResponseCheck.Proofs.Text.Parts
import ResponseCheck.Settings

/-!
# JSON that is sent and shown

Requests carry JSON on one line, and dumps show it indented. Whoever answers with the one text or
with the other, without compression, answers with the same value.
-/

namespace ResponseCheck

/-- A body without a declared encoding is read as it is. -/
theorem Http.Response.json_of_uncompressed {response : Response} {v : Json}
    (hencoding : response.header? "content-encoding" = none)
    (hread : Json.read .buffer response.body = .ok v) : response.json = .ok v := by
  have hgzip : response.declaresGzip = false := by
    rw [declaresGzip, hencoding]
    rfl
  have hbody : response.decodedBody = .ok response.body := by
    rw [decodedBody, hgzip]
    rfl
  exact Except.bind_eq_ok_iff.mpr ⟨_, hbody, Except.mapError_eq_ok_iff.mpr hread⟩

namespace Exchange

/-- What a dump says before the body: the time, the request, the status and the headers. -/
def frontText (exchange : Exchange) (stamp : String) : String :=
  s!"TIME: {stamp}\n" ++ (exchange.request.map requestText).getD ""
    ++ s!"RESPONSE: {exchange.response.status.val}\n"
    ++ s!"  HEADERS:\n{exchange.response.headers.toJson.pretty}\n"

/-- The body of a response that says that it is JSON is shown indented, if it is that. -/
theorem dump_of_json {exchange : Exchange} {v : Json} (stamp : String)
    (hhead : exchange.isHead = false) (hjson : exchange.response.isJson = true)
    (hbody : exchange.response.json = .ok v) :
    exchange.dump stamp = exchange.frontText stamp ++ s!"  JSON_BODY\n{v.pretty}\n" := by
  have hshown : bodyText exchange.response (.ok v) = s!"  JSON_BODY\n{v.pretty}\n" := by
    unfold bodyText
    rw [hjson]
  simp only [dump, dumpOf, responseText, hhead, hbody, hshown, frontText, Bool.false_eq_true,
    if_false, String.append_assoc]

end Exchange

/-- **JSON that is sent and JSON that is shown are read back.** Of a value that is nested at most
127 deep, with numbers that are integers of 64 bits: what a method that writes sends for it is read
as the same value, entries in their order, when it comes back without an encoding; and where it is
the body of a JSON response to a request for more than the head, so is the text of the body in the
dump. -/
theorem json_sent_and_shown_is_read_back {v : Json} (hplain : Json.Plain 127 v) :
    (∀ (settings : Settings) (url : String) (headers : List (String × String)),
      ∀ method ∈ [Http.Method.post, .put, .patch], ∃ payload,
        (settings.prepare method url { headers, body := some (.json v) }).payload = some payload ∧
          ∀ response : Http.Response, response.header? "content-encoding" = none →
            response.body = Utf8.encode payload → response.json = .ok v) ∧
    (∀ exchange : Exchange, exchange.isHead = false → exchange.response.isJson = true →
      exchange.response.json = .ok v → ∃ text,
        (∀ stamp, exchange.dump stamp = exchange.frontText stamp ++ s!"  JSON_BODY\n{text}\n") ∧
          ∀ response : Http.Response, response.header? "content-encoding" = none →
            response.body = Utf8.encode text → response.json = .ok v) := by
  constructor
  · intro settings url headers method hmethod
    have hsends : method.sendsBody = true := by
      simp only [List.mem_cons, List.not_mem_nil, or_false] at hmethod
      rcases hmethod with rfl | rfl | rfl <;> rfl
    refine ⟨v.compact, ?_, fun response hencoding hbody => ?_⟩
    · rw [Settings.prepare, if_pos hsends]
      rfl
    · exact response.json_of_uncompressed hencoding (hbody ▸ Json.read_compact .buffer hplain)
  · intro exchange hhead hjson hbody
    refine ⟨v.pretty, fun stamp => exchange.dump_of_json stamp hhead hjson hbody,
      fun response hencoding hshown => ?_⟩
    exact response.json_of_uncompressed hencoding (hshown ▸ Json.read_pretty .buffer hplain)

/-- The least and the greatest integers, empty containers, names out of order, and characters that
are escaped, in an answer that repeats what was sent. -/
theorem json_sent_and_shown_is_read_back_of_echo :
    let limits : Json := .arr [.int (-0x8000000000000000), .int 0xFFFFFFFFFFFFFFFF, .arr [], .obj []]
    let v : Json := .obj [("b", limits), ("a\"\\", .str "\n\x01/é")]
    let request := Settings.prepare {} .put "/echo" { body := some (.json v) }
    let payload := "\x7b\"b\":[-9223372036854775808,18446744073709551615,[],\x7b\x7d]," ++
      "\"a\\\"\\\\\":\"\\n\\u0001/é\"\x7d"
    let response : Http.Response :=
      ⟨200, .ofList [("content-type", "application/json")], Utf8.encode payload⟩
    let exchange : Exchange := ⟨some request, response⟩
    Json.Plain 127 v ∧ request.payload = some payload ∧
      response.header? "content-encoding" = none ∧ response.json = .ok v ∧
      exchange.isHead = false ∧ response.isJson = true ∧ ∃ text,
        (∀ stamp, exchange.dump stamp = exchange.frontText stamp ++ s!"  JSON_BODY\n{text}\n") ∧
        ∀ response : Http.Response, response.header? "content-encoding" = none →
          response.body = Utf8.encode text → response.json = .ok v := by
  intro limits v request payload response exchange
  have hlimits : Json.Plain 126 limits := by
    refine .arr ?_
    simp only [List.forall_mem_cons]
    exact ⟨.int ⟨by decide, by decide⟩, .int ⟨by decide, by decide⟩, .arr nofun,
      .obj (by decide) nofun, nofun⟩
  have hplain : Json.Plain 127 v := by
    refine .obj (by decide) ?_
    simp only [List.forall_mem_cons]
    exact ⟨hlimits, .str _, nofun⟩
  have hpayload : request.payload = some payload := by decide +kernel
  have hencoding : response.header? "content-encoding" = none := by decide +kernel
  have hname : Text.asciiLower "content-type" = "content-type" := by decide +kernel
  have htype : response.header? "content-type" = some "application/json" := by
    rw [Http.Response.header?, hname]
    decide +kernel
  have hjson : response.isJson = true := by
    rw [Http.Response.isJson, htype, Option.any_some]
    exact (Text.occursIn_iff _ _).mpr List.infix_rfl
  obtain ⟨hsent, hshown⟩ := json_sent_and_shown_is_read_back hplain
  obtain ⟨sent, hsent, hread⟩ := hsent {} "/echo" [] .put (by simp)
  have hsame : payload = sent := Option.some.inj (hpayload.symm.trans hsent)
  have hbody : response.json = .ok v := hread response hencoding (hsame ▸ rfl)
  exact ⟨hplain, hpayload, hencoding, hbody, rfl, hjson, hshown exchange rfl hjson hbody⟩

end ResponseCheck
