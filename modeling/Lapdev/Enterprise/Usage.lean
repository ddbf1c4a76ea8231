import Lapdev.Db.Workspaces
import Lapdev.RustStd.Int

/-!
# Usage records and their cost

`Usage` of `enterprise/src/usage.rs`. A usage is recorded when a workspace or a prebuild starts and
is ended when it stops; `endUsage` then stores what it cost. `getCost` adds up what a window of
time cost: the stored costs of the usages inside the window, and the costs of the usages that reach
over one of its ends, which it computes again. `getUsageRecords` lists the same usages page by
page.
-/

namespace Lapdev

open RustStd Sql

/-- The tables `Usage` reads and writes, and the sequence of the ids of usages. -/
structure UsageDb where
  usages : Table Usage.Model
  users : Table User.Profile
  machineTypes : Table MachineType.Model
  nextId : Nat

/-- Source: `common/src/lib.rs`. -/
structure UsageRecord where
  id : Nat
  start : Int
  resourceKind : String
  resourceName : String
  machineType : String
  duration : Nat
  cost : Nat
  user : String
  avatar : String
  deriving DecidableEq, Repr

/-- Source: `common/src/lib.rs`. -/
structure UsageResult where
  totalItems : Nat
  numPages : Nat
  page : Nat
  pageSize : Nat
  totalCost : Nat
  records : List UsageRecord

/-- The calendar of `chrono` in the time zone of the server: the date of a time, and the start of a
day, if there is exactly one. -/
structure Calendar where
  year : Int → Int
  month : Int → Nat
  day : Int → Nat
  startOfDay : Int → Nat → Nat → Option Int

namespace Usage

/-- Why a call fails. -/
inductive Error
  | db (e : DbErr)
  | other (message : String)
  deriving DecidableEq, Repr

/-- `Usage::new_usage`. -/
def newUsage (db : UsageDb) (start : Int) (orgId : Uuid) (userId : Option Uuid)
    (resourceKind : UsageResourceKind) (resourceId : Uuid) (resourceName : String)
    (machineTypeId : Uuid) (costPerSecond : Int) : Except Error UsageDb := do
  let usages ← (db.usages.insert
    { id := db.nextId, start, «end» := none, resourceKind := resourceKind.toString, resourceId,
      resourceName, organizationId := orgId, machineTypeId, userId, duration := none,
      costPerSecond, totalCost := 0 }).mapError .db
  pure { db with usages, nextId := db.nextId + 1 }

/-- `Usage::end_usage`. The product is one of 32 bits. -/
def endUsage (db : UsageDb) (id : Nat) (end' : Int) : Except Error UsageDb := do
  match db.usages.one fun r => r.id = id with
  | none => .error (.other "can't find usage")
  | some usage =>
    let duration := asI32 (max (numSeconds (end' - usage.start)) 0)
    let totalCost := asI32 (usage.costPerSecond * duration)
    let usages ← (db.usages.updateOne (fun r => r.id = id) fun r =>
      { r with «end» := some end', duration := some duration, totalCost }).mapError .db
    pure { db with usages }

/-! ## Queries -/

/-- The organization's rows, of one user if there is one. -/
def scope (organization : Uuid) (user : Option Uuid) (r : Model) : Bool :=
  r.organizationId = organization && user.all fun u => r.userId = some u

/-- The rows whose stored cost counts: they start and end inside the window. -/
def inside (start end' : Int) (r : Model) : Bool :=
  start ≤ r.start && r.end.any (· ≤ end')

/-- The rows whose cost is computed again: they have not ended, or reach over an end of the
window. -/
def reachesOver (start end' : Int) (r : Model) : Bool :=
  (r.start < end' && r.end.isNone) || (r.start < end' && r.end.any (· > end')) ||
    (r.start < start && r.end.any (· > start))

/-- The seconds of a usage inside the window, which both queries compute alike. -/
def clippedDuration (start end' now : Int) (r : Model) : Nat :=
  let usageStart := if r.start < start then start else r.start
  let usageEnd := r.end.getD now
  let usageEnd := if usageEnd > end' then end' else usageEnd
  asUsize (max (numSeconds (usageEnd - usageStart)) 0)

/-- What these seconds cost. -/
def clippedCost (start end' now : Int) (r : Model) : Nat :=
  clippedDuration start end' now r * asUsize (max r.costPerSecond 0) % 2 ^ 64

/-- `Usage::get_cost`. -/
def getCost (db : UsageDb) (organization : Uuid) (user : Option Uuid) (costPerSecond : Option Int)
    (start end' now : Int) : Nat :=
  let priced r := costPerSecond.all fun c => r.costPerSecond = c
  let fixed := db.usages.select fun r => scope organization user r && inside start end' r && priced r
  let fixedCost := asUsize (max (fixed.map (·.totalCost)).sum 0)
  let usages := db.usages.select fun r =>
    scope organization user r && reachesOver start end' r && priced r
  let totalCost := usages.foldl (fun total r => (total + clippedCost start end' now r) % 2 ^ 64) 0
  (totalCost + fixedCost) % 2 ^ 64

/-- The day of a date, from midnight for 86400 seconds. -/
def dayWindow (calendar : Calendar) (date : Int) : Except Error (Int × Int) :=
  match calendar.startOfDay (calendar.year date) (calendar.month date) (calendar.day date) with
  | none => .error (.other "can't parse date")
  | some dayStart => .ok (dayStart, dayStart + 86400 * 1000000)

/-- The month of a date. -/
def monthWindow (calendar : Calendar) (date : Int) : Except Error (Int × Int) :=
  let year := calendar.year date
  let month := calendar.month date
  match calendar.startOfDay year month 1 with
  | none => .error (.other "can't parse date")
  | some monthStart =>
    let next := if month = 12 then (year + 1, 1) else (year, month + 1)
    match calendar.startOfDay next.1 next.2 1 with
    | none => .error (.other "can't parse date")
    | some monthEnd => .ok (monthStart, monthEnd)

/-- `Usage::get_daily_cost`. -/
def getDailyCost (calendar : Calendar) (db : UsageDb) (organization : Uuid) (user : Option Uuid)
    (costPerSecond : Option Int) (date now : Int) : Except Error Nat := do
  let (dayStart, dayEnd) ← dayWindow calendar date
  pure (getCost db organization user costPerSecond dayStart dayEnd now)

/-- `Usage::get_monthly_cost`. -/
def getMonthlyCost (calendar : Calendar) (db : UsageDb) (organization : Uuid) (user : Option Uuid)
    (costPerSecond : Option Int) (date now : Int) : Except Error Nat := do
  let (monthStart, monthEnd) ← monthWindow calendar date
  pure (getCost db organization user costPerSecond monthStart monthEnd now)

/-- The rows of `Usage::get_usage_records`, the latest first. -/
def listed (db : UsageDb) (organization : Uuid) (user : Option Uuid) (start end' : Int) :
    List Model :=
  (db.usages.select fun r =>
    scope organization user r && (inside start end' r || reachesOver start end' r)).insertionSort
      fun r r' => r'.start ≤ r.start

/-- One row of `Usage::get_usage_records`. -/
def record (db : UsageDb) (start end' now : Int) (r : Model) : UsageRecord :=
  let user := r.userId.bind fun id => db.users.one fun u => u.id = id
  { id := r.id
    start := r.start
    resourceKind := r.resourceKind
    resourceName := r.resourceName
    machineType := ((db.machineTypes.one fun m => m.id = r.machineTypeId).map (·.name)).getD ""
    duration := clippedDuration start end' now r
    cost := clippedCost start end' now r
    user := (user.bind (·.name)).getD ""
    avatar := (user.bind (·.avatarUrl)).getD "" }

/-- `Usage::get_usage_records`. -/
def getUsageRecords (db : UsageDb) (organization : Uuid) (user : Option Uuid)
    (start end' : Int) (pageSize page : Nat) (now : Int) : UsageResult :=
  let rows := listed db organization user start end'
  { totalItems := rows.length
    numPages := rows.length / pageSize + if rows.length % pageSize > 0 then 1 else 0
    page, pageSize
    totalCost := getCost db organization user none start end' now
    records := ((rows.drop (page * pageSize)).take pageSize).map (record db start end' now) }

/-! ## Histories -/

/-- A call that records usage. -/
inductive Call
  | newUsage (start : Int) (orgId : Uuid) (userId : Option Uuid)
      (resourceKind : UsageResourceKind) (resourceId : Uuid) (resourceName : String)
      (machineTypeId : Uuid) (costPerSecond : Int)
  | endUsage (id : Nat) (end' : Int)

/-- Costs are not negative. -/
def Call.Valid : Call → Prop
  | .newUsage _ _ _ _ _ _ _ costPerSecond => 0 ≤ costPerSecond
  | .endUsage _ _ => True

/-- What a call does. -/
def Call.run (db : UsageDb) : Call → Except Error UsageDb
  | .newUsage start orgId userId resourceKind resourceId resourceName machineTypeId costPerSecond =>
    Usage.newUsage db start orgId userId resourceKind resourceId resourceName machineTypeId
      costPerSecond
  | .endUsage id end' => Usage.endUsage db id end'

/-- The tables after a call: a transaction that fails leaves them. -/
def Call.after (db : UsageDb) (call : Call) : UsageDb :=
  match call.run db with
  | .ok db' => db'
  | .error _ => db

/-- The tables after a history of calls that started without usages. -/
def recorded (users : Table User.Profile) (machineTypes : Table MachineType.Model)
    (history : List Call) : UsageDb :=
  history.foldl Call.after { usages := .empty, users, machineTypes, nextId := 1 }

end Usage

end Lapdev
