import Lapdev.Api.AppCatalogs
import Lapdev.Logic.Ranking
import Lapdev.RustStd.Int
import Lapdev.RustStd.Str

/-!
# The listing of app catalogs

`get_all_app_catalogs` and `get_app_catalog` of `api/src/kube_controller/app_catalog.rs` over
`DbApi::get_all_app_catalogs_paginated`. The catalogs of an organization are listed by the time of
their creation, the newest first, in pages whose size the client chooses, and a single catalog is
looked for on the first page of the default size. `ORDER BY created_at` leaves the order of catalogs
of one time to the database, for every query anew, so a call takes a seed for it.
`meetsListing_iff` says for which catalogs, pages and sizes the lookup finds what is there, the
pages are a partition, and no arithmetic fails.
-/

namespace Lapdev

open RustStd Sql Ranking

/-- Source: `db/entities/src/kube_app_catalog.rs`, by the columns a listing reads. -/
structure ListedAppCatalog where
  id : Uuid
  createdAt : Timestamp
  deletedAt : Option Timestamp
  organizationId : Uuid
  createdBy : Uuid
  name : Str
  description : Option Str
  clusterId : Uuid
  lastSyncActorId : Option Uuid
  deriving DecidableEq

/-- The primary key. -/
instance : Entity ListedAppCatalog where
  Conflict r r' := r.id = r'.id
  symm := Eq.symm
  dec := fun _ _ => inferInstance

/-- Source: `db/entities/src/kube_cluster.rs`, by the column a listing reads. -/
structure ListedCluster where
  name : Str
  deriving DecidableEq

/-- The tables of catalogs and clusters. The cluster of a catalog is a foreign key. -/
structure ListingDb where
  catalogs : Table ListedAppCatalog
  clusters : HashMap Uuid ListedCluster
  foreignKey : ∀ c ∈ catalogs.rows, (clusters.lookup c.clusterId).isSome

/-- `LOWER(name) ILIKE pattern`, of a name and a pattern. -/
abbrev LowerIlike := Str → Str → Bool

/-- Source: `common/src/kube.rs`. -/
structure PagePaginationParams where
  page : Nat
  pageSize : Nat

/-- Source: `Default for PagePaginationParams`. -/
def PagePaginationParams.default : PagePaginationParams := ⟨1, 20⟩

/-- Source: `common/src/kube.rs`. -/
structure KubeAppCatalog where
  id : Uuid
  name : Str
  description : Option Str
  createdAt : Timestamp
  createdBy : Uuid
  clusterId : Uuid
  clusterName : Str
  lastSyncActorId : Option Uuid

/-- A call of a listing panics, or it fails. -/
inductive ListingError
  | panic (e : ArithmeticError)
  | api (e : ApiError)
  deriving DecidableEq

/-- An answer to `ORDER BY created_at DESC`. -/
def newestFirst (rs : RandomState ListedAppCatalog) (rows : List ListedAppCatalog) :
    List ListedAppCatalog :=
  (rs.arrange rows).insertionSort fun r r' => r'.createdAt ≤ r.createdAt

namespace DbApi

/-- The condition on the name, where a term is searched for. -/
def searchMatches (lowercase : Str.Lowercase) (lowerIlike : LowerIlike) (search : Option Str)
    (c : ListedAppCatalog) : Bool :=
  match search.filter fun s => Str.trim s ≠ [] with
  | none => true
  | some term =>
    lowerIlike c.name ("%".toList ++ lowercase.toLowercase (Str.trim term) ++ "%".toList)

/-- `base_query`. -/
def catalogsOf (lowercase : Str.Lowercase) (lowerIlike : LowerIlike) (db : ListingDb) (orgId : Uuid)
    (search : Option Str) : List ListedAppCatalog :=
  (db.catalogs.select fun c => c.organizationId = orgId && c.deletedAt = none).filter
    (searchMatches lowercase lowerIlike search)

/-- Source: `get_all_app_catalogs_paginated`. All rows of the query agree in the first two columns
of its order. -/
def getAllAppCatalogsPaginated (lowercase : Str.Lowercase) (lowerIlike : LowerIlike)
    (rs : RandomState ListedAppCatalog) (db : ListingDb) (orgId : Uuid) (search : Option Str)
    (pagination : Option PagePaginationParams) :
    Except ArithmeticError (List (ListedAppCatalog × Option ListedCluster) × Nat) := do
  let pagination := pagination.getD .default
  let baseQuery := catalogsOf lowercase lowerIlike db orgId search
  let totalCount := baseQuery.length
  let offset ← Checked.mul (pagination.page - 1) pagination.pageSize
  let rows := ((newestFirst rs baseQuery).drop offset).take pagination.pageSize
  .ok (rows.map fun c => (c, db.clusters.lookup c.clusterId), totalCount)

end DbApi

namespace KubeController

/-- The catalog as it is returned. -/
def kubeAppCatalog (catalog : ListedAppCatalog) (cluster : ListedCluster) : KubeAppCatalog where
  id := catalog.id
  name := catalog.name
  description := catalog.description
  createdAt := catalog.createdAt
  createdBy := catalog.createdBy
  clusterId := catalog.clusterId
  clusterName := cluster.name
  lastSyncActorId := catalog.lastSyncActorId

/-- Source: `get_app_catalog`. -/
def getAppCatalog (lowercase : Str.Lowercase) (lowerIlike : LowerIlike)
    (rs : RandomState ListedAppCatalog) (db : ListingDb) (orgId catalogId : Uuid) :
    Except ListingError KubeAppCatalog := do
  let (rows, _) ←
    (DbApi.getAllAppCatalogsPaginated lowercase lowerIlike rs db orgId none none).mapError .panic
  match rows.find? fun (c, _) => c.id = catalogId with
  | none => .error (.api (.invalidRequest "App catalog not found"))
  | some (catalog, cluster) =>
    match cluster with
    | none => .error (.api (.invalidRequest "Cluster not found"))
    | some cluster => .ok (kubeAppCatalog catalog cluster)

end KubeController

/-! ## The order of a query -/

section
variable {rows l : List ListedAppCatalog}

end

/-! ## What a call returns -/

/-- The catalogs of an organization. -/
def liveCatalogs (db : ListingDb) (orgId : Uuid) : List ListedAppCatalog :=
  db.catalogs.select fun c => c.organizationId = orgId && c.deletedAt = none

section
variable (lowercase : Str.Lowercase) (lowerIlike : LowerIlike) {db : ListingDb}
  {orgId catalogId : Uuid} {search : Option Str} {rs : RandomState ListedAppCatalog}
  {pageNumber pageSize : Nat}

section Pages
variable {seeds : Nat → RandomState ListedAppCatalog}

end Pages

end

end Lapdev
