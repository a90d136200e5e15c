/-
  The options of a keeper of records.
-/
import Rowgate.Json.Decode
import Rowgate.Span
import Rowgate.Statement.Insert

namespace Rowgate

/-- The names of the tables that are read and written on the keeper's own behalf. -/
structure TableNames where
  audit : String
  access : String
  role : String
  user : String
  userProfile : String
  service : String
deriving DecidableEq

namespace TableNames

def standard : TableNames where
  audit := "audits"
  access := "access_keys"
  role := "roles"
  user := "users"
  userProfile := "user_profile"
  service := "services"

def toJson (t : TableNames) : Json :=
  .object [("audit_table", .string t.audit), ("access_table", .string t.access),
    ("role_table", .string t.role), ("user_table", .string t.user),
    ("user_profile_table", .string t.userProfile), ("service_table", .string t.service)]

def ofJson? (j : Json) : Option TableNames := do
  match ← j.fields? ["audit_table", "access_table", "role_table", "user_table",
      "user_profile_table", "service_table"] with
  | [audit, access, role, user, userProfile, service] =>
    return {
      audit := ← Json.orElse standard.audit Json.string? audit
      access := ← Json.orElse standard.access Json.string? access
      role := ← Json.orElse standard.role Json.string? role
      user := ← Json.orElse standard.user Json.string? user
      userProfile := ← Json.orElse standard.userProfile Json.string? userProfile
      service := ← Json.orElse standard.service Json.string? service }
  | _ => none

end TableNames

/-- Which actions are written to the audit log. -/
structure AuditFlags where
  create : Bool
  read : Bool
  update : Bool
  delete : Bool
deriving DecidableEq

namespace AuditFlags

def none : AuditFlags := ⟨false, false, false, false⟩

def toJson (f : AuditFlags) : Json :=
  .object [("create", .bool f.create), ("read", .bool f.read), ("update", .bool f.update),
    ("delete", .bool f.delete)]

def ofJson? (j : Json) : Option AuditFlags := do
  match ← j.fields? ["create", "read", "update", "delete"] with
  | [create, read, update, delete] =>
    return {
      create := ← Json.orElse false Json.bool? create
      read := ← Json.orElse false Json.bool? read
      update := ← Json.orElse false Json.bool? update
      delete := ← Json.orElse false Json.bool? delete }
  | _ => Option.none

end AuditFlags

structure Options where
  tables : TableNames
  /-- The greatest number of rows that a read asks for. -/
  maxQueryLimit : Int
  /-- How long an entry of the cache lives, in seconds. -/
  cacheExpire : UInt64
  cacheEnabled : Bool
  /-- Whether access is checked before every task. -/
  checkAccess : Bool
  audit : AuditFlags
  insertMode : InsertMode
  /-- How long a statement may take, in milliseconds. -/
  queryTimeoutMillis : Option UInt64
deriving DecidableEq

namespace Options

def standard : Options where
  tables := .standard
  maxQueryLimit := 10000
  cacheExpire := 300
  cacheEnabled := true
  checkAccess := false
  audit := .none
  insertMode := .parameterized
  queryTimeoutMillis := none

def cacheTtl (o : Options) : Span :=
  .ofSeconds o.cacheExpire

def timeout (o : Options) : Option Span :=
  o.queryTimeoutMillis.map fun n => .ofMillis n

/-- The limit that a read asks for: the requested one if it is positive and not above
    the greatest, else the greatest. -/
def effectiveLimit (o : Options) (requested : Int) : Int :=
  if requested ≤ 0 ∨ o.maxQueryLimit < requested then o.maxQueryLimit else requested

def withTables (o : Options) (tables : TableNames) : Options :=
  { o with tables }

def withMaxQueryLimit (o : Options) (maxQueryLimit : Int) : Options :=
  { o with maxQueryLimit }

def withCacheEnabled (o : Options) (cacheEnabled : Bool) : Options :=
  { o with cacheEnabled }

def withCheckAccess (o : Options) (checkAccess : Bool) : Options :=
  { o with checkAccess }

def withAudit (o : Options) (audit : AuditFlags) : Options :=
  { o with audit }

def withInsertMode (o : Options) (insertMode : InsertMode) : Options :=
  { o with insertMode }

/-- Keeps whole seconds. -/
def withCacheExpire (o : Options) (ttl : Span) : Options :=
  { o with cacheExpire := ttl.seconds }

/-- Keeps whole milliseconds. -/
def withQueryTimeout (o : Options) (limit : Span) : Options :=
  { o with queryTimeoutMillis := some limit.millis }

def toJson (o : Options) : Json :=
  .object [("tables", o.tables.toJson), ("max_query_limit", .number (.whole o.maxQueryLimit)),
    ("cache_expire", .ofNat o.cacheExpire), ("cache_enabled", .bool o.cacheEnabled),
    ("check_access", .bool o.checkAccess), ("audit", o.audit.toJson),
    ("insert_mode", .string o.insertMode.name),
    ("query_timeout_ms", (o.queryTimeoutMillis.map fun n => Json.ofNat n).getD .null)]

/-- Reads options; what is absent stays as in the standard ones. -/
def ofJson? (j : Json) : Option Options := do
  match ← j.fields? ["tables", "max_query_limit", "cache_expire", "cache_enabled",
      "check_access", "audit", "insert_mode", "query_timeout_ms"] with
  | [tables, maxLimit, expire, cached, checked, audit, mode, timeout] =>
    return {
      tables := ← Json.orElse standard.tables TableNames.ofJson? tables
      maxQueryLimit := ← Json.orElse standard.maxQueryLimit
        (fun j => (Json.int64? j).map Int64.toInt) maxLimit
      cacheExpire := ← Json.orElse standard.cacheExpire Json.uint64? expire
      cacheEnabled := ← Json.orElse standard.cacheEnabled Json.bool? cached
      checkAccess := ← Json.orElse standard.checkAccess Json.bool? checked
      audit := ← Json.orElse standard.audit AuditFlags.ofJson? audit
      insertMode := ← Json.orElse standard.insertMode (Json.word? InsertMode.byName) mode
      queryTimeoutMillis := ← Json.orElse none (Json.option? Json.uint64?) timeout }
  | _ => Option.none

end Options

end Rowgate
