import Lapdev.RustStd.HashMap
import Lapdev.RustStd.Str
import Lapdev.RustStd.UuidText
import Mathlib.Tactic.IntervalCases

/-!
# The routing context of a request

`extract_routing_context` of `kube-sidecar-proxy/src/otel_routing.rs`: what the sidecar reads off
the headers of a request. The environment is the first `lapdev-env-id` of the first `tracestate`
that is a UUID.
-/

namespace Lapdev

open RustStd

namespace OtelRouting

/-- `TRACEPARENT_HEADER`. -/
def traceparentHeader : Str := "traceparent".toList

/-- `TRACESTATE_HEADER`. -/
def tracestateHeader : Str := "tracestate".toList

/-- `BAGGAGE_HEADER`. -/
def baggageHeader : Str := "baggage".toList

/-- `X_ROUTING_KEY`. -/
def xRoutingKey : Str := "x-routing-key".toList

/-- `X_SERVICE_VERSION`. -/
def xServiceVersion : Str := "x-service-version".toList

/-- `X_CANARY_DEPLOYMENT`. -/
def xCanaryDeployment : Str := "x-canary-deployment".toList

/-- The key of the entry that names an environment. -/
def environmentKey : Str := "lapdev-env-id".toList

/-- Source: `otel_routing.rs`. -/
structure TraceContext where
  traceId : Option Str
  spanId : Option Str
  traceFlags : Option Str
  traceState : Option Str
  baggage : HashMap Str Str

/-- Source: `otel_routing.rs`. -/
structure RoutingContext where
  traceContext : TraceContext
  lapdevEnvironmentId : Option Uuid
  routingKey : Option Str
  serviceVersion : Option Str
  canaryDeployment : Option Str
  customHeaders : HashMap Str Str

/-- `get_header_value`. -/
def getHeaderValue (headers : List (Str × Str)) (name : Str) : Option Str :=
  (headers.find? fun h => Str.eqIgnoreAsciiCase h.1 name).map Prod.snd

/-- `parse_traceparent`. -/
def parseTraceparent (traceparent : Str) : Option (Option Str × Option Str × Option Str) :=
  match Str.split '-' traceparent with
  | [_, traceId, parentId, traceFlags] => some (some traceId, some parentId, some traceFlags)
  | _ => none

/-- `parse_baggage`. -/
def parseBaggage (baggage : Str) : HashMap Str Str :=
  (Str.split ',' baggage).foldl
    (fun result item =>
      match Str.splitOnce '=' (Str.trim item) with
      | some (key, value) => result.insert (Str.trim key) (Str.trim value)
      | none => result)
    ∅

/-- `extract_custom_headers`. -/
def extractCustomHeaders (headers : List (Str × Str)) : HashMap Str Str :=
  headers.foldl
    (fun custom h => if "x-routing-".toList.isPrefixOf h.1 then custom.insert h.1 h.2 else custom) ∅

/-- `extract_trace_context`. -/
def extractTraceContext (headers : List (Str × Str)) : TraceContext :=
  let parsed := ((getHeaderValue headers traceparentHeader).bind parseTraceparent).getD
    (none, none, none)
  { traceId := parsed.1
    spanId := parsed.2.1
    traceFlags := parsed.2.2
    traceState := getHeaderValue headers tracestateHeader
    baggage := ((getHeaderValue headers baggageHeader).map parseBaggage).getD ∅ }

/-- The environment of one entry of a `tracestate`. -/
def environmentOfEntry (uuids : UuidParser) (entry : Str) : Option Uuid :=
  (Str.splitOnce '=' (Str.trim entry)).bind fun (key, value) =>
    if Str.eqIgnoreAsciiCase (Str.trim key) environmentKey then uuids.parseStr (Str.trim value)
    else none

/-- `extract_lapdev_environment_id`. -/
def extractLapdevEnvironmentId (uuids : UuidParser) (tracestate : Option Str) : Option Uuid :=
  tracestate.bind fun tracestate => (Str.split ',' tracestate).findSome? (environmentOfEntry uuids)

/-- `extract_routing_context`. -/
def extractRoutingContext (uuids : UuidParser) (headers : List (Str × Str)) : RoutingContext :=
  let traceContext := extractTraceContext headers
  { traceContext
    lapdevEnvironmentId := extractLapdevEnvironmentId uuids traceContext.traceState
    routingKey := getHeaderValue headers xRoutingKey
    serviceVersion := getHeaderValue headers xServiceVersion
    canaryDeployment := getHeaderValue headers xCanaryDeployment
    customHeaders := extractCustomHeaders headers }

theorem lapdevEnvironmentId_extractRoutingContext (uuids : UuidParser) (headers : List (Str × Str)) :
    (extractRoutingContext uuids headers).lapdevEnvironmentId =
      extractLapdevEnvironmentId uuids (getHeaderValue headers tracestateHeader) := rfl

/-! ## Entries -/

/-- The entry that names an environment. -/
def environmentEntry (environmentId : Uuid) : Str :=
  environmentKey ++ '=' :: environmentId.hyphenated.toList

/-- A trimmed entry under the key of an environment. -/
def isEnvironmentEntry (entry : Str) : Bool :=
  (Str.splitOnce '=' entry).any fun kv => Str.eqIgnoreAsciiCase (Str.trim kv.1) environmentKey

/-- It is written with visible ASCII characters, and without a comma. -/
theorem mem_environmentEntry {environmentId : Uuid} {c : Char}
    (h : c ∈ environmentEntry environmentId) : 33 ≤ c.toNat ∧ c.toNat < 127 ∧ c ≠ ',' := by
  have hkey : environmentKey.all (fun c => decide (33 ≤ c.toNat ∧ c.toNat < 127 ∧ c ≠ ',')) = true :=
    rfl
  rcases List.mem_append.1 h with h | h
  · exact of_decide_eq_true (List.all_eq_true.1 hkey c h)
  · rcases List.mem_cons.1 h with rfl | h
    · decide
    · rcases Uuid.mem_hyphenated h with rfl | ⟨n, hn, rfl⟩
      · decide
      · interval_cases n <;> decide

theorem trim_environmentEntry (environmentId : Uuid) :
    Str.trim (environmentEntry environmentId) = environmentEntry environmentId := by
  refine Str.trim_eq_self fun c hc => ?_
  obtain ⟨hlow, hhigh, -⟩ := mem_environmentEntry hc
  rw [Bool.eq_false_iff]
  intro hspace
  simp only [Str.isWhitespace, Bool.or_eq_true, Bool.and_eq_true, decide_eq_true_eq, List.mem_cons,
    List.not_mem_nil, or_false] at hspace
  omega

theorem splitOnce_environmentEntry (environmentId : Uuid) :
    Str.splitOnce '=' (environmentEntry environmentId) =
      some (environmentKey, environmentId.hyphenated.toList) :=
  Str.splitOnce_append (by decide) _

theorem isEnvironmentEntry_environmentEntry (environmentId : Uuid) :
    isEnvironmentEntry (environmentEntry environmentId) = true := by
  rw [isEnvironmentEntry, splitOnce_environmentEntry]
  rfl

/-- The entry is read as its environment. -/
theorem environmentOfEntry_environmentEntry (uuids : UuidParser) (environmentId : Uuid) :
    environmentOfEntry uuids (environmentEntry environmentId) = some environmentId := by
  have hvalue : Str.trim environmentId.hyphenated.toList = environmentId.hyphenated.toList := by
    refine Str.trim_eq_self fun c hc => ?_
    rcases Uuid.mem_hyphenated hc with rfl | ⟨n, hn, rfl⟩
    · rfl
    · interval_cases n <;> rfl
  have hkey : Str.eqIgnoreAsciiCase (Str.trim environmentKey) environmentKey = true := rfl
  rw [environmentOfEntry, trim_environmentEntry, splitOnce_environmentEntry, Option.bind_some]
  dsimp only
  rw [if_pos hkey, hvalue, uuids.parseStr_hyphenated]

/-- Other entries are passed over. -/
theorem environmentOfEntry_eq_none (uuids : UuidParser) {entry : Str}
    (h : isEnvironmentEntry (Str.trim entry) = false) : environmentOfEntry uuids entry = none := by
  rw [environmentOfEntry]
  cases hsplit : Str.splitOnce '=' (Str.trim entry) with
  | none => rfl
  | some kv =>
    rw [isEnvironmentEntry, hsplit, Option.any_some] at h
    rw [Option.bind_some]
    dsimp only
    rw [h, if_neg Bool.false_ne_true]

end OtelRouting

end Lapdev
