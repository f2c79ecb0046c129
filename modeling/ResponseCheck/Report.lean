import ResponseCheck.Schema.Decode

/-! A report counts the expectations that are not met and has a result for each one, met or not. -/

namespace ResponseCheck

/-- The outcome of one expectation. -/
structure Report.Result where
  index : Nat
  kind : String
  arguments : Json
  passed : Bool
  message : Option String := none
deriving Repr

/-- The outcome of all expectations. -/
structure Report where
  matched : Bool
  failureCount : Nat
  results : List Report.Result
deriving Repr

namespace Report

/-- The report on a list of results. -/
def ofResults (results : List Result) : Report :=
  let failureCount := results.countP (!·.passed)
  ⟨failureCount == 0, failureCount, results⟩

/-- A result as an object; an absent message is left out. -/
def Result.toJson (r : Result) : Json :=
  .obj <|
    [("index", .int r.index), ("kind", .str r.kind), ("args", r.arguments),
      ("passed", .bool r.passed)]
    ++ r.message.toList.map (("message", .str ·))

/-- The fields of a result. -/
def Result.schema : Schema.Record Result where
  name := "CheckResult"
  closed := false
  fields := [
    { name := "index", omission := .never
      read := fun v r => return { r with index := ← Schema.natural "usize" v } },
    { name := "kind", omission := .never
      read := fun v r => return { r with kind := ← Schema.string v } },
    { name := "args", omission := .never
      read := fun v r => return { r with arguments := v } },
    { name := "passed", omission := .never
      read := fun v r => return { r with passed := ← Schema.bool v } },
    { name := "message", omission := .inObjects
      read := fun v r => return { r with message := ← Schema.optional Schema.string v } }]

/-- Reads a result. -/
def Result.decode : Json → Except Schema.Error Result :=
  Result.schema.decode ⟨0, "", .null, false, none⟩

/-- A report as an object. -/
def toJson (r : Report) : Json :=
  .obj [("matched", .bool r.matched), ("failure_count", .int r.failureCount),
    ("results", .arr (r.results.map Result.toJson))]

end Report

end ResponseCheck
