/-
  Options from TOML.
-/
import Rowgate.Error
import Rowgate.Options.Basic
import Rowgate.Toml.Decode
import Rowgate.Toml.Reader

namespace Rowgate

def TableNames.ofToml? (t : Toml) : Option TableNames := do
  match ← t.fields? ["audit_table", "access_table", "role_table", "user_table",
      "user_profile_table", "service_table"] with
  | [audit, access, role, user, userProfile, service] =>
    return {
      audit := ← Toml.orElse standard.audit Toml.string? audit
      access := ← Toml.orElse standard.access Toml.string? access
      role := ← Toml.orElse standard.role Toml.string? role
      user := ← Toml.orElse standard.user Toml.string? user
      userProfile := ← Toml.orElse standard.userProfile Toml.string? userProfile
      service := ← Toml.orElse standard.service Toml.string? service }
  | _ => none

def AuditFlags.ofToml? (t : Toml) : Option AuditFlags := do
  match ← t.fields? ["create", "read", "update", "delete"] with
  | [create, read, update, delete] =>
    return {
      create := ← Toml.orElse false Toml.bool? create
      read := ← Toml.orElse false Toml.bool? read
      update := ← Toml.orElse false Toml.bool? update
      delete := ← Toml.orElse false Toml.bool? delete }
  | _ => Option.none

namespace Options

def ofToml? (t : Toml) : Option Options := do
  match ← t.fields? ["tables", "max_query_limit", "cache_expire", "cache_enabled",
      "check_access", "audit", "insert_mode", "query_timeout_ms"] with
  | [tables, maxLimit, expire, cached, checked, audit, mode, timeout] =>
    return {
      tables := ← Toml.orElse standard.tables TableNames.ofToml? tables
      maxQueryLimit := ← Toml.orElse standard.maxQueryLimit
        (Toml.whole? (-(2 ^ 63)) (2 ^ 63)) maxLimit
      cacheExpire := ← Toml.orElse standard.cacheExpire Toml.uint64? expire
      cacheEnabled := ← Toml.orElse standard.cacheEnabled Toml.bool? cached
      checkAccess := ← Toml.orElse standard.checkAccess Toml.bool? checked
      audit := ← Toml.orElse standard.audit AuditFlags.ofToml? audit
      insertMode := ← Toml.orElse standard.insertMode (Toml.word? InsertMode.byName) mode
      queryTimeoutMillis := ← Toml.orElse none (fun t => (Toml.uint64? t).map some) timeout }
  | _ => Option.none

/-- Reads options from the text of a document; keys that are absent stay as in the
    standard ones. -/
def ofTomlText (text : String) : Except Error Options :=
  match (Toml.read? text).bind fun members => ofToml? (.table members) with
  | some options => .ok options
  | none => .error (.config "malformed options")

end Options

end Rowgate
