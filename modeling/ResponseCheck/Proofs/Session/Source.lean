import ResponseCheck.Proofs.Session.Run

/-!
# Where exchanges come from

Requests and loads are the *sources* of exchanges. Whatever state a session is in, operations leave
it with the exchange of the last source among them: a response that was loaded, or the answer to the
last request if there was one. Without a source the exchange stays.
-/

namespace ResponseCheck.Session

/-- Where an exchange comes from. -/
inductive Source where
  | asked (request : Http.Request)
  | loaded (response : Http.Response)

/-- The request that is sent for an exchange. -/
def Source.request? : Source → Option Http.Request
  | .asked request => some request
  | .loaded _ => none

/-- The source that an operation is; readings are none, and a guard is what it guards. -/
def Operation.source? (settings : Settings) : Operation → Option Source
  | .request method url options => some (.asked (settings.prepare method url options))
  | .load response => some (.loaded response)
  | .read _ => none
  | .guard operation => operation.source? settings

variable {σ ε : Type}

/-- The exchange that the last source leaves, if the last of all answers is `answer`. -/
def lastExchange (source : Option Source)
    (answer : Option (Http.Request × Except ε Http.Response)) : Option Exchange :=
  match source, answer with
  | none, _ => none
  | some (.loaded response), _ => some ⟨none, response⟩
  | some (.asked request), some (_, .ok response) => some ⟨some request, response⟩
  | some (.asked _), _ => none

/-! ### What operations do to a state -/

/-- What sources of exchanges in turn make of a state: the transport is given their requests, and
the exchange is that of the last source. -/
structure Follows (before : State σ ε) (sources : List Source) (after : State σ ε) : Prop where
  settings : after.session.settings = before.session.settings
  policy : after.session.policy = before.session.policy
  sent : ∃ answers, after.wire.log = before.wire.log ++ answers ∧
    answers.map Prod.fst = sources.filterMap Source.request?
  exchange : after.session.exchange =
    if sources = [] then before.session.exchange
    else lastExchange sources.getLast? after.wire.log.getLast?

variable {env : Environment σ ε} {before middle after : State σ ε} {first rest : List Source}

theorem Follows.refl (state : State σ ε) : Follows state [] state := ⟨rfl, rfl, ⟨[], by simp⟩, rfl⟩

theorem Follows.trans (hfirst : Follows before first middle) (hrest : Follows middle rest after) :
    Follows before (first ++ rest) after := by
  obtain ⟨answers, hlog, hsent⟩ := hfirst.sent
  obtain ⟨answers', hlog', hsent'⟩ := hrest.sent
  refine ⟨hrest.settings.trans hfirst.settings, hrest.policy.trans hfirst.policy,
    ⟨answers ++ answers', ?_, ?_⟩, ?_⟩
  · rw [hlog', hlog, List.append_assoc]
  · rw [List.map_append, hsent, hsent', List.filterMap_append]
  · rw [hrest.exchange]
    cases rest with
    | nil =>
      -- Without further sources nothing more is sent, so that the last answer stays the last.
      obtain rfl : answers' = [] := by simpa using hsent'
      rw [if_pos rfl, hfirst.exchange, List.append_nil, hlog', List.append_nil]
    | cons source rest => simp [List.getLast?_cons]

/-- A guard changes nothing but the world of the clock. -/
theorem follows_guard {operation : Operation}
    (h : Follows before first (env.step operation before).2) :
    Follows before first (env.step (.guard operation) before).2 := by
  rcases env.step_guard_cases operation before with hstep | ⟨fault, dump, world, -, hstep⟩
  · rw [hstep]
    exact h
  · rw [hstep]
    exact ⟨h.settings, h.policy, h.sent, h.exchange⟩

theorem follows_step (env : Environment σ ε) (operation : Operation) (state : State σ ε) :
    Follows state (operation.source? state.session.settings).toList
      (env.step operation state).2 := by
  induction operation with
  | request method url options =>
    rcases hanswer : env.transport (state.session.settings.prepare method url options)
      state.wire.world with ⟨answer, world⟩
    rw [Environment.step_request rfl hanswer]
    refine ⟨rfl, rfl, ⟨[(_, answer)], rfl, rfl⟩, ?_⟩
    cases answer <;> simp [Operation.source?, lastExchange, Except.toOption]
  | load response =>
    rw [Environment.step_load]
    exact ⟨rfl, rfl, ⟨[], by simp, rfl⟩, by simp [Operation.source?, lastExchange, load]⟩
  | read reading => exact .refl state
  | guard operation ih => exact follows_guard ih

theorem follows_run (env : Environment σ ε) (operations : List Operation) (state : State σ ε) :
    Follows state (operations.filterMap (·.source? state.session.settings))
      (env.run operations state).2 := by
  induction operations generalizing state with
  | nil => exact .refl state
  | cons operation operations ih =>
    have hstep := follows_step env operation state
    have hrun := hstep.trans (hstep.settings ▸ ih (env.step operation state).2)
    rw [Environment.run, List.filterMap_cons]
    cases hsource : operation.source? state.session.settings <;>
      simpa only [hsource, Option.toList_none, Option.toList_some, List.nil_append,
        List.singleton_append] using hrun

end ResponseCheck.Session
