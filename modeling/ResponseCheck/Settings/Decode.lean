import ResponseCheck.Schema.Decode
import ResponseCheck.Settings

/-! The fields of settings as data; each of them may be left out. -/

namespace ResponseCheck.Settings

/-- The fields of settings. -/
def schema : Schema.Record Settings where
  name := "Config"
  fields := [
    { name := "base_url"
      read := fun v s => return { s with baseUrl := ← Schema.optional Schema.string v } },
    { name := "headers"
      read := fun v s => return { s with headers := ← Schema.headers v } },
    { name := "proxy"
      read := fun v s => return { s with proxy := ← Schema.optional Schema.string v } },
    { name := "follow_redirects"
      read := fun v s => return { s with followRedirects := ← Schema.bool v } },
    { name := "timeout_secs"
      read := fun v s =>
        return { s with timeoutSeconds := ← Schema.optional (Schema.natural "u64") v } }]

/-- Reads settings; what is left out stays as it is by default. -/
def decode : Json → Except Schema.Error Settings := schema.decode {}

end ResponseCheck.Settings
