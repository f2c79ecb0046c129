import ResponseCheck.Proofs.Path.Encoding
import ResponseCheck.Proofs.Session.HeaderExpectation
import ResponseCheck.Proofs.Text.LetterCase

/-!
# Names of headers in any letter case

A response has its headers under small names, and names that are asked for are made small: by a
lookup, and by an expectation in its path. So it does not matter in which letter case a name is
given, and an expectation at a name agrees with a lookup of it.
-/

namespace ResponseCheck

open Text (asciiLower Recased)

namespace Segment

theorem plain_literal_asciiLower_iff {key : String} :
    Plain (.literal (asciiLower key)) ↔ Plain (.literal key) := by
  have hdot : '.' ∈ (asciiLower key).toList ↔ '.' ∈ key.toList := Text.mem_asciiLower_iff rfl
  have hall : asciiLower key = "*" ↔ key = "*" := Text.asciiLower_eq_singleton_iff (c := '*') rfl
  have hone : asciiLower key = "?" ↔ key = "?" := Text.asciiLower_eq_singleton_iff (c := '?') rfl
  simp only [Plain, ne_eq, hdot, hall, hone]

/-- The texts that are read as one key: those without dots that are not spelled like wildcards. -/
theorem parse_eq_ok_singleton_iff {raw key : String} :
    parse raw = .ok [.literal key] ↔ key = raw ∧ Plain (.literal raw) := by
  have hjoin : join [.literal key] = key := String.intercalate_singleton
  rw [parse_eq_ok_iff_join, hjoin]
  constructor
  · rintro ⟨rfl, hwf⟩
    exact ⟨rfl, hwf.plain _ List.mem_cons_self⟩
  · rintro ⟨rfl, hplain⟩
    exact ⟨rfl, ⟨List.cons_ne_nil _ _, List.forall_mem_singleton.mpr hplain, List.not_mem_nil⟩⟩

end Segment

namespace Session

variable {session : Session} {response : Http.Response} {predicate : Predicate}
  {name key : String} {optional : Bool} {expected : Json}

/-- An expectation at a name asks for the header that is looked up under it. -/
theorem expectHeader_at_iff (hresponse : session.response = .ok response)
    (hname : Segment.parse name = .ok [.literal key]) :
    session.expectHeader predicate ⟨some name, optional, expected⟩ = .ok () ↔
      ∃ value, response.header? name = some value ∧
        predicate.check expected (.str value) = .ok () := by
  obtain ⟨rfl, hplain⟩ := Segment.parse_eq_ok_singleton_iff.mp hname
  -- The path is made small before it is read, which must not turn the key into anything else.
  have hsmall : Segment.parse (asciiLower key) = .ok [.literal (asciiLower key)] :=
    Segment.parse_eq_ok_singleton_iff.mpr ⟨rfl, Segment.plain_literal_asciiLower_iff.mpr hplain⟩
  have hchild : response.headers.toJson.child? (asciiLower key) =
      (response.header? key).map .str := Http.Headers.get?_toJson ..
  -- Headers are an object, so that an optional path is not satisfied for want of them.
  have hnull : (optional && response.headers.toJson.isNull) = false := Bool.and_false optional
  calc session.expectHeader predicate ⟨some key, optional, expected⟩ = .ok ()
    _ ↔ Expectation.IsMet ⟨some (asciiLower key), optional, expected⟩ predicate
          response.headers.toJson := expectHeader_eq_ok_iff_isMet hresponse
    _ ↔ Satisfies optional (predicate.Accepts expected) [.literal (asciiLower key)]
          response.headers.toJson := by
      simp [Expectation.IsMet, Path.parse_eq_ok_iff, hsmall]
    _ ↔ ∃ value, response.header? key = some value ∧ predicate.Accepts expected (.str value) := by
      rw [satisfies_literal_iff hnull]
      simp [Json.step_eq_ok_iff, hchild, Satisfies]
    _ ↔ ∃ value, response.header? key = some value ∧
          predicate.check expected (.str value) = .ok () := by
      simp only [Predicate.check_eq_ok_iff]

/-- The letter case of a path is of no account, for the verdict and for what a failure shows. -/
theorem expectHeader_recased {path path' : String} (h : Recased path path') :
    session.expectHeader predicate ⟨some path, optional, expected⟩ =
      session.expectHeader predicate ⟨some path', optional, expected⟩ := by
  have hfold : foldHeaderNames ⟨some path, optional, expected⟩ =
      foldHeaderNames ⟨some path', optional, expected⟩ := by
    simp only [foldHeaderNames, h.asciiLower_eq]
  rw [expectHeader, expectHeader, hfold]

end Session

/-- **Names of headers are given in any letter case.** A received response has small names, and a
lookup finds the same header under two names that differ in letter case only. An expectation at a
name that is read as one key passes exactly if the header is there and its value is as expected. To
change the letter case of a path changes nothing at all in the result, for matching and for types,
and whether the path is optional or not. -/
theorem header_names_ignore_letter_case {response : Http.Response}
    (hreceived : response.Received) :
    response.headers.Small ∧
    (∀ {name name' : String}, Recased name name' →
      response.header? name = response.header? name') ∧
    ∀ (session : Session) (predicate : Predicate) (optional : Bool) (expected : Json),
      (session.response = .ok response →
        ∀ {name key : String}, Segment.parse name = .ok [.literal key] →
          (session.expectHeader predicate ⟨some name, optional, expected⟩ = .ok () ↔
            ∃ value, response.header? name = some value ∧
              predicate.check expected (.str value) = .ok ())) ∧
      (∀ {path path' : String}, Recased path path' →
        session.expectHeader predicate ⟨some path, optional, expected⟩ =
          session.expectHeader predicate ⟨some path', optional, expected⟩) :=
  ⟨hreceived.small, fun h => congrArg response.headers.get? h.asciiLower_eq,
    fun _ _ _ _ => ⟨fun h => Session.expectHeader_at_iff h, Session.expectHeader_recased⟩⟩

/-- A header that is set, looked up and expected in different letter cases. -/
theorem header_names_ignore_letter_case_of_date :
    let response : Http.Response := .make 200 (.ofList [("Date", "today")]) []
    let session : Session := { exchange := some ⟨none, response⟩ }
    response.Received ∧ session.response = .ok response ∧
      Segment.parse "dATE" = .ok [.literal "dATE"] ∧ Recased "dATE" "Date" ∧
      response.header? "dATE" = response.header? "Date" ∧
      (∃ value, response.header? "dATE" = some value ∧
        Predicate.value.check (.str "today") (.str value) = .ok ()) ∧
      session.expectHeader .value ⟨some "dATE", false, .str "now"⟩ =
        session.expectHeader .value ⟨some "Date", false, .str "now"⟩ := by
  intro response session
  have hreceived : response.Received := .made ..
  have hresponse : session.response = .ok response := rfl
  have hname : Segment.parse "dATE" = .ok [.literal "dATE"] := by cbv
  have hrecased : Recased "dATE" "Date" := by
    unfold Recased
    decide
  have hcheck : session.expectHeader .value ⟨some "dATE", false, .str "today"⟩ = .ok () := by cbv
  obtain ⟨-, hlookup, hexpect⟩ := header_names_ignore_letter_case hreceived
  exact ⟨hreceived, hresponse, hname, hrecased, hlookup hrecased,
    ((hexpect session .value false _).1 hresponse hname).mp hcheck,
    (hexpect session .value false _).2 hrecased⟩

end ResponseCheck
